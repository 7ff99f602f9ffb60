import Bindery.Generator.Kit

/-! The templates of the C platform. -/
namespace Bindery.Generator.C

/-- The header that includes the headers of all categories. -/
def addin : String := Text.lines [
  "#ifndef addin_c_h",
  "#define addin_c_h",
  "",
  "#include <stdbool.h>",
  "",
  "#define SUCCESS 0",
  "#define FAIL 1",
  "",
  "${includes}",
  "#endif",
  ""]

/-- The header of a category. -/
def header : String := Text.lines [
  "#ifndef ${guard}",
  "#define ${guard}",
  "",
  "${prototypes}",
  "#endif",
  ""]

/-- The declaration of a function. -/
def prototypeTemplate : String := Text.lines [
  "long ${name}(",
  "${parameters});",
  ""]

/-- The bodies of a category. -/
def source : String := Text.lines [
  "#include \"addin.h\"",
  "#include <${lib_root}/${category}.hpp>",
  "#include <oh/objecthandler.hpp>",
  "#include <cstring>",
  "",
  "${bodies}"]

/-- The body of a constructor. -/
def bodyConstructor : String := Text.lines [
  "long ${name}(",
  "${parameters}) \x7b",
  "    try \x7b",
  "${conversions}        boost::shared_ptr<ObjectHandler::Object> objectPointer(",
  "            new ${namespace}::${library_function}(${library_call}));",
  "        std::string returnValue =",
  "            ObjectHandler::Repository::instance().storeObject(objectIDCpp, objectPointer, permanent);",
  "${return_conversion}",
  "        return SUCCESS;",
  "    \x7d catch (const std::exception &e) \x7b",
  "        ObjectHandler::logMessage(std::string(\"Error: ${name} - \") + e.what(), 2);",
  "        return FAIL;",
  "    \x7d",
  "\x7d",
  ""]

/-- The body of a member. -/
def bodyMember : String := Text.lines [
  "long ${name}(",
  "${parameters}) \x7b",
  "    try \x7b",
  "${conversions}        OH_GET_REFERENCE(objectPointer, objectIDCpp,",
  "            ${namespace}::${object_class}, ${class})",
  "        ${return_type} returnValue = objectPointer->${library_function}(${library_call});",
  "${return_conversion}",
  "        return SUCCESS;",
  "    \x7d catch (const std::exception &e) \x7b",
  "        ObjectHandler::logMessage(std::string(\"Error: ${name} - \") + e.what(), 2);",
  "        return FAIL;",
  "    \x7d",
  "\x7d",
  ""]

/-- The body of a member that is called for every element of a parameter. -/
def bodyMemberLoop : String := Text.lines [
  "long ${name}(",
  "${parameters}) \x7b",
  "    try \x7b",
  "${conversions}        OH_GET_REFERENCE(objectPointer, objectIDCpp,",
  "            ${namespace}::${object_class}, ${class})",
  "        ${return_type} returnValue;",
  "        for (std::size_t i = 0; i < ${loop}Cpp.size(); ++i)",
  "            returnValue.push_back(objectPointer->${library_function}(${loop_call}));",
  "${return_conversion}",
  "        return SUCCESS;",
  "    \x7d catch (const std::exception &e) \x7b",
  "        ObjectHandler::logMessage(std::string(\"Error: ${name} - \") + e.what(), 2);",
  "        return FAIL;",
  "    \x7d",
  "\x7d",
  ""]

/-- The body of a member of an enumeration. -/
def bodyEnumerationMember : String := Text.lines [
  "long ${name}(",
  "${parameters}) \x7b",
  "    try \x7b",
  "${conversions}        ${class} enumeration =",
  "            ObjectHandler::Create<${class}>()(enumerationIDCpp);",
  "        ${return_type} returnValue = enumeration.${library_function}(${library_call});",
  "${return_conversion}",
  "        return SUCCESS;",
  "    \x7d catch (const std::exception &e) \x7b",
  "        ObjectHandler::logMessage(std::string(\"Error: ${name} - \") + e.what(), 2);",
  "        return FAIL;",
  "    \x7d",
  "\x7d",
  ""]

/-- The body of a member of an enumeration that is called for every element of a parameter. -/
def bodyEnumerationMemberLoop : String := Text.lines [
  "long ${name}(",
  "${parameters}) \x7b",
  "    try \x7b",
  "${conversions}        ${class} enumeration =",
  "            ObjectHandler::Create<${class}>()(enumerationIDCpp);",
  "        ${return_type} returnValue;",
  "        for (std::size_t i = 0; i < ${loop}Cpp.size(); ++i)",
  "            returnValue.push_back(enumeration.${library_function}(${loop_call}));",
  "${return_conversion}",
  "        return SUCCESS;",
  "    \x7d catch (const std::exception &e) \x7b",
  "        ObjectHandler::logMessage(std::string(\"Error: ${name} - \") + e.what(), 2);",
  "        return FAIL;",
  "    \x7d",
  "\x7d",
  ""]

/-- The body of a procedure. -/
def bodyProcedure : String := Text.lines [
  "long ${name}(",
  "${parameters}) \x7b",
  "    try \x7b",
  "${conversions}        ${return_type} returnValue = ${alias}(${library_call});",
  "${return_conversion}",
  "        return SUCCESS;",
  "    \x7d catch (const std::exception &e) \x7b",
  "        ObjectHandler::logMessage(std::string(\"Error: ${name} - \") + e.what(), 2);",
  "        return FAIL;",
  "    \x7d",
  "\x7d",
  ""]

/-- The body of a procedure that is called for every element of a parameter. -/
def bodyProcedureLoop : String := Text.lines [
  "long ${name}(",
  "${parameters}) \x7b",
  "    try \x7b",
  "${conversions}        ${return_type} returnValue;",
  "        for (std::size_t i = 0; i < ${loop}Cpp.size(); ++i)",
  "            returnValue.push_back(${alias}(${loop_call}));",
  "${return_conversion}",
  "        return SUCCESS;",
  "    \x7d catch (const std::exception &e) \x7b",
  "        ObjectHandler::logMessage(std::string(\"Error: ${name} - \") + e.what(), 2);",
  "        return FAIL;",
  "    \x7d",
  "\x7d",
  ""]

/-- The templates by name. -/
def templates : List (String × String) := [
  ("copyright", copyright),
  ("c.addin", addin),
  ("c.header", header),
  ("c.prototype", prototypeTemplate),
  ("c.source", source),
  ("c.body.constructor", bodyConstructor),
  ("c.body.member", bodyMember),
  ("c.body.member_loop", bodyMemberLoop),
  ("c.body.enumeration_member", bodyEnumerationMember),
  ("c.body.enumeration_member_loop", bodyEnumerationMemberLoop),
  ("c.body.procedure", bodyProcedure),
  ("c.body.procedure_loop", bodyProcedureLoop)]

end Bindery.Generator.C
