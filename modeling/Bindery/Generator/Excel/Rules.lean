import Bindery.Rule.Set

/-! The rules of the Excel platform. -/
namespace Bindery.Generator.Excel

/-- The rules. -/
def rules : Rule.Source where
  codes := [
    ("arg_oper", "OPER *${name}"),
    ("arg_scalar", "${type} *${name}"),
    ("arg_string", "char *${name}"),
    ("call_converted", "${name}Cpp"),
    ("call_dereferenced", "*${name}"),
    ("convert_any", "ObjectHandler::property_t ${name}Cpp = ObjectHandler::convert2<ObjectHandler::property_t>(ObjectHandler::ConvertOper(*${name}));"),
    ("convert_any_matrix", "std::vector<std::vector<ObjectHandler::property_t> > ${name}Cpp = ObjectHandler::operToMatrix<ObjectHandler::property_t>(*${name}, \"${name}\");"),
    ("convert_any_vector", "std::vector<ObjectHandler::property_t> ${name}Cpp = ObjectHandler::operToVector<ObjectHandler::property_t>(*${name}, \"${name}\");"),
    ("convert_matrix", "std::vector<std::vector<${type}> > ${name}Cpp = ObjectHandler::operToMatrix<${type}>(*${name}, \"${name}\");"),
    ("convert_string", "std::string ${name}Cpp(${name});"),
    ("convert_string_matrix", "std::vector<std::vector<std::string> > ${name}Cpp = ObjectHandler::operToMatrix<std::string>(*${name}, \"${name}\");"),
    ("convert_string_vector", "std::vector<std::string> ${name}Cpp = ObjectHandler::operToVector<std::string>(*${name}, \"${name}\");"),
    ("convert_vector", "std::vector<${type}> ${name}Cpp = ObjectHandler::operToVector<${type}>(*${name}, \"${name}\");"),
    ("name", "${name}"),
    ("return_any", "static OPER xRet;\n        ObjectHandler::scalarToOper(returnValue, xRet);\n        return &xRet;"),
    ("return_matrix", "static OPER xRet;\n        ObjectHandler::matrixToOper(returnValue, xRet);\n        return &xRet;"),
    ("return_scalar", "static ${type} ret;\n        ret = returnValue;\n        return &ret;"),
    ("return_string", "static char ret[XL_MAX_STR_LEN];\n        ObjectHandler::stringToChar(returnValue, ret);\n        return ret;"),
    ("return_vector", "static OPER xRet;\n        ObjectHandler::vectorToOper(returnValue, xRet);\n        return &xRet;"),
    ("type_any", "ObjectHandler::property_t"),
    ("type_any_matrix", "std::vector<std::vector<ObjectHandler::property_t> >"),
    ("type_any_vector", "std::vector<ObjectHandler::property_t>"),
    ("type_code_bool", "L"),
    ("type_code_double", "E"),
    ("type_code_long", "N"),
    ("type_code_oper", "P"),
    ("type_code_string", "C"),
    ("type_matrix", "std::vector<std::vector<${type}> >"),
    ("type_scalar", "${type}"),
    ("type_string", "std::string"),
    ("type_string_matrix", "std::vector<std::vector<std::string> >"),
    ("type_string_vector", "std::vector<std::string>"),
    ("type_vector", "std::vector<${type}>"),
    ("xl_oper", "OPER *"),
    ("xl_scalar", "${type} *"),
    ("xl_string", "char *")]
  groups := [
    ("conversions", {
      delimiter := "\n", indent := 8, after := "\n\n", skipImplicit := true
      rules := [
        ⟨some .scalar, some .string, some "convert_string"⟩,
        ⟨some .scalar, some .any, some "convert_any"⟩,
        ⟨some .scalar, none, none⟩,
        ⟨some .vector, some .string, some "convert_string_vector"⟩,
        ⟨some .vector, some .property, some "convert_string_vector"⟩,
        ⟨some .vector, some .any, some "convert_any_vector"⟩,
        ⟨some .vector, none, some "convert_vector"⟩,
        ⟨some .matrix, some .string, some "convert_string_matrix"⟩,
        ⟨some .matrix, some .any, some "convert_any_matrix"⟩,
        ⟨some .matrix, none, some "convert_matrix"⟩] }),
    ("library_call", {
      skipImplicit := true
      rules := [
        ⟨some .scalar, some .string, some "call_converted"⟩,
        ⟨some .scalar, some .any, some "call_converted"⟩,
        ⟨some .scalar, none, some "call_dereferenced"⟩,
        ⟨none, none, some "call_converted"⟩] }),
    ("parameter_list", {
      delimiter := ","
      rules := [
        ⟨none, none, some "name"⟩] }),
    ("prototype", {
      delimiter := ",\n", indent := 8
      rules := [
        ⟨some .scalar, some .string, some "arg_string"⟩,
        ⟨some .scalar, some .any, some "arg_oper"⟩,
        ⟨some .scalar, none, some "arg_scalar"⟩,
        ⟨none, none, some "arg_oper"⟩] }),
    ("return_conversion", {
      indent := 8
      rules := [
        ⟨some .scalar, some .string, some "return_string"⟩,
        ⟨some .scalar, some .any, some "return_any"⟩,
        ⟨some .scalar, none, some "return_scalar"⟩,
        ⟨some .vector, none, some "return_vector"⟩,
        ⟨some .matrix, none, some "return_matrix"⟩] }),
    ("return_type", {
      rules := [
        ⟨some .scalar, some .string, some "xl_string"⟩,
        ⟨some .scalar, some .any, some "xl_oper"⟩,
        ⟨some .scalar, none, some "xl_scalar"⟩,
        ⟨none, none, some "xl_oper"⟩] }),
    ("type_codes", {
      delimiter := ""
      rules := [
        ⟨some .scalar, some .string, some "type_code_string"⟩,
        ⟨some .scalar, some .double, some "type_code_double"⟩,
        ⟨some .scalar, some .long, some "type_code_long"⟩,
        ⟨some .scalar, some .bool, some "type_code_bool"⟩,
        ⟨none, none, some "type_code_oper"⟩] }),
    ("value_type", {
      rules := [
        ⟨some .scalar, some .string, some "type_string"⟩,
        ⟨some .scalar, some .any, some "type_any"⟩,
        ⟨some .scalar, none, some "type_scalar"⟩,
        ⟨some .vector, some .string, some "type_string_vector"⟩,
        ⟨some .vector, some .property, some "type_string_vector"⟩,
        ⟨some .vector, some .any, some "type_any_vector"⟩,
        ⟨some .vector, none, some "type_vector"⟩,
        ⟨some .matrix, some .string, some "type_string_matrix"⟩,
        ⟨some .matrix, some .any, some "type_any_matrix"⟩,
        ⟨some .matrix, none, some "type_matrix"⟩] })]

end Bindery.Generator.Excel
