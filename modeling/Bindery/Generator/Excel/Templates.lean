import Bindery.Generator.Kit

/-! The templates of the Excel platform. -/
namespace Bindery.Generator.Excel

/-- The worksheet functions of a category. -/
def source : String := Text.lines [
  "#include <${lib_root}/${category}.hpp>",
  "#include <ohxl/objecthandlerxl.hpp>",
  "#include <ohxl/functioncall.hpp>",
  "#include <ohxl/conversions/all.hpp>",
  "#include <xlsdk/xlsdkdefines.hpp>",
  "",
  "${bodies}"]

/-- The body of a constructor. -/
def bodyConstructor : String := Text.lines [
  "DLLEXPORT ${return_type}${name}(",
  "${parameters}) \x7b",
  "",
  "    boost::shared_ptr<ObjectHandler::FunctionCall> functionCall;",
  "",
  "    try \x7b",
  "",
  "        functionCall = boost::shared_ptr<ObjectHandler::FunctionCall>",
  "            (new ObjectHandler::FunctionCall(\"${name}\"));",
  "${wizard_check}${trigger_check}",
  "        std::string objectIDCpp(objectID);",
  "${conversions}        boost::shared_ptr<ObjectHandler::Object> objectPointer(",
  "            new ${namespace}::${library_function}(${library_call}));",
  "        std::string returnValue =",
  "            ObjectHandler::RepositoryXL::instance().storeObject(objectIDCpp, objectPointer, *permanent);",
  "",
  "${return_conversion}",
  "",
  "    \x7d catch (const std::exception &e) \x7b",
  "        ObjectHandler::RepositoryXL::instance().logError(e.what(), functionCall);",
  "        return 0;",
  "    \x7d",
  "\x7d",
  ""]

/-- The body of a member. -/
def bodyMember : String := Text.lines [
  "DLLEXPORT ${return_type}${name}(",
  "${parameters}) \x7b",
  "",
  "    boost::shared_ptr<ObjectHandler::FunctionCall> functionCall;",
  "",
  "    try \x7b",
  "",
  "        functionCall = boost::shared_ptr<ObjectHandler::FunctionCall>",
  "            (new ObjectHandler::FunctionCall(\"${name}\"));",
  "${wizard_check}${trigger_check}",
  "        std::string objectIDCpp(objectID);",
  "${conversions}        OH_GET_REFERENCE(objectPointer, objectIDCpp,",
  "            ${namespace}::${object_class}, ${class})",
  "        ${value_type} returnValue = objectPointer->${library_function}(${library_call});",
  "",
  "${return_conversion}",
  "",
  "    \x7d catch (const std::exception &e) \x7b",
  "        ObjectHandler::RepositoryXL::instance().logError(e.what(), functionCall);",
  "        return 0;",
  "    \x7d",
  "\x7d",
  ""]

/-- The body of a member that is called for every element of a parameter. -/
def bodyMemberLoop : String := Text.lines [
  "DLLEXPORT ${return_type}${name}(",
  "${parameters}) \x7b",
  "",
  "    boost::shared_ptr<ObjectHandler::FunctionCall> functionCall;",
  "",
  "    try \x7b",
  "",
  "        functionCall = boost::shared_ptr<ObjectHandler::FunctionCall>",
  "            (new ObjectHandler::FunctionCall(\"${name}\"));",
  "${wizard_check}${trigger_check}",
  "        std::string objectIDCpp(objectID);",
  "${conversions}        OH_GET_REFERENCE(objectPointer, objectIDCpp,",
  "            ${namespace}::${object_class}, ${class})",
  "        ${value_type} returnValue;",
  "        for (std::size_t i = 0; i < ${loop}Cpp.size(); ++i)",
  "            returnValue.push_back(objectPointer->${library_function}(${loop_call}));",
  "",
  "${return_conversion}",
  "",
  "    \x7d catch (const std::exception &e) \x7b",
  "        ObjectHandler::RepositoryXL::instance().logError(e.what(), functionCall);",
  "        return 0;",
  "    \x7d",
  "\x7d",
  ""]

/-- The body of a member of an enumeration. -/
def bodyEnumerationMember : String := Text.lines [
  "DLLEXPORT ${return_type}${name}(",
  "${parameters}) \x7b",
  "",
  "    boost::shared_ptr<ObjectHandler::FunctionCall> functionCall;",
  "",
  "    try \x7b",
  "",
  "        functionCall = boost::shared_ptr<ObjectHandler::FunctionCall>",
  "            (new ObjectHandler::FunctionCall(\"${name}\"));",
  "${wizard_check}${trigger_check}",
  "        std::string enumerationIDCpp(enumerationID);",
  "${conversions}        ${class} enumeration =",
  "            ObjectHandler::Create<${class}>()(enumerationIDCpp);",
  "        ${value_type} returnValue = enumeration.${library_function}(${library_call});",
  "",
  "${return_conversion}",
  "",
  "    \x7d catch (const std::exception &e) \x7b",
  "        ObjectHandler::RepositoryXL::instance().logError(e.what(), functionCall);",
  "        return 0;",
  "    \x7d",
  "\x7d",
  ""]

/-- The body of a member of an enumeration that is called for every element of a parameter. -/
def bodyEnumerationMemberLoop : String := Text.lines [
  "DLLEXPORT ${return_type}${name}(",
  "${parameters}) \x7b",
  "",
  "    boost::shared_ptr<ObjectHandler::FunctionCall> functionCall;",
  "",
  "    try \x7b",
  "",
  "        functionCall = boost::shared_ptr<ObjectHandler::FunctionCall>",
  "            (new ObjectHandler::FunctionCall(\"${name}\"));",
  "${wizard_check}${trigger_check}",
  "        std::string enumerationIDCpp(enumerationID);",
  "${conversions}        ${class} enumeration =",
  "            ObjectHandler::Create<${class}>()(enumerationIDCpp);",
  "        ${value_type} returnValue;",
  "        for (std::size_t i = 0; i < ${loop}Cpp.size(); ++i)",
  "            returnValue.push_back(enumeration.${library_function}(${loop_call}));",
  "",
  "${return_conversion}",
  "",
  "    \x7d catch (const std::exception &e) \x7b",
  "        ObjectHandler::RepositoryXL::instance().logError(e.what(), functionCall);",
  "        return 0;",
  "    \x7d",
  "\x7d",
  ""]

/-- The body of a procedure. -/
def bodyProcedure : String := Text.lines [
  "DLLEXPORT ${return_type}${name}(",
  "${parameters}) \x7b",
  "",
  "    boost::shared_ptr<ObjectHandler::FunctionCall> functionCall;",
  "",
  "    try \x7b",
  "",
  "        functionCall = boost::shared_ptr<ObjectHandler::FunctionCall>",
  "            (new ObjectHandler::FunctionCall(\"${name}\"));",
  "${wizard_check}${trigger_check}",
  "${conversions}        ${value_type} returnValue = ${alias}(${library_call});",
  "",
  "${return_conversion}",
  "",
  "    \x7d catch (const std::exception &e) \x7b",
  "        ObjectHandler::RepositoryXL::instance().logError(e.what(), functionCall);",
  "        return 0;",
  "    \x7d",
  "\x7d",
  ""]

/-- The body of a procedure that is called for every element of a parameter. -/
def bodyProcedureLoop : String := Text.lines [
  "DLLEXPORT ${return_type}${name}(",
  "${parameters}) \x7b",
  "",
  "    boost::shared_ptr<ObjectHandler::FunctionCall> functionCall;",
  "",
  "    try \x7b",
  "",
  "        functionCall = boost::shared_ptr<ObjectHandler::FunctionCall>",
  "            (new ObjectHandler::FunctionCall(\"${name}\"));",
  "${wizard_check}${trigger_check}",
  "${conversions}        ${value_type} returnValue;",
  "        for (std::size_t i = 0; i < ${loop}Cpp.size(); ++i)",
  "            returnValue.push_back(${alias}(${loop_call}));",
  "",
  "${return_conversion}",
  "",
  "    \x7d catch (const std::exception &e) \x7b",
  "        ObjectHandler::RepositoryXL::instance().logError(e.what(), functionCall);",
  "        return 0;",
  "    \x7d",
  "\x7d",
  ""]

/-- The end of a call that the function wizard makes. -/
def wizardCheck : String := Text.lines [
  "",
  "        if (functionCall->IsCalledByFuncWiz())",
  "            return 0;",
  ""]

/-- The check of a trigger. -/
def triggerCheck : String := Text.lines [
  "",
  "        ObjectHandler::validateRange(trigger, \"trigger\");",
  ""]

/-- The registration of a function. -/
def registerTemplate : String := Text.lines [
  "    Excel(xlfRegister, 0, ${count}, &xDll,",
  "        // function code name",
  "        TempStrNoSize(${code_name}),",
  "        // parameter codes",
  "        TempStrNoSize(${parameter_codes}),",
  "        // function display name",
  "        TempStrNoSize(${display_name}),",
  "        // comma-delimited list of parameters",
  "        TempStrNoSize(${parameter_list}),",
  "        // function type (1 = worksheet function)",
  "        TempStrNoSize(\"\\x01\"\"1\"),",
  "        // function category",
  "        TempStrNoSize(${category}),",
  "        // shortcut text",
  "        TempStrNoSize(\"\\x00\"\"\"),",
  "        // help topic",
  "        TempStrNoSize(\"\\x00\"\"\"),",
  "        // function description",
  "        TempStrNoSize(${description})${parameter_descriptions});",
  ""]

/-- The description of a parameter in a registration. -/
def registerParameter : String := Text.lines [
  ",",
  "        TempStrNoSize(${description})"]

/-- The registrations of a category. -/
def registerCategory : String := Text.lines [
  "#include <xlsdk/xlsdkdefines.hpp>",
  "",
  "void register_${category}(const XLOPER &xDll) \x7b",
  "",
  "${registrations}\x7d",
  ""]

/-- The registrations of all categories. -/
def registerAll : String := Text.lines [
  "#include <xlsdk/xlsdkdefines.hpp>",
  "",
  "${declarations}",
  "void registerFunctions(const XLOPER &xDll) \x7b",
  "",
  "${calls}\x7d",
  ""]

/-- The templates by name. -/
def templates : List (String × String) := [
  ("copyright", copyright),
  ("excel.source", source),
  ("excel.body.constructor", bodyConstructor),
  ("excel.body.member", bodyMember),
  ("excel.body.member_loop", bodyMemberLoop),
  ("excel.body.enumeration_member", bodyEnumerationMember),
  ("excel.body.enumeration_member_loop", bodyEnumerationMemberLoop),
  ("excel.body.procedure", bodyProcedure),
  ("excel.body.procedure_loop", bodyProcedureLoop),
  ("excel.wizard_check", wizardCheck),
  ("excel.trigger_check", triggerCheck),
  ("excel.register", registerTemplate),
  ("excel.register_parameter", registerParameter),
  ("excel.register_category", registerCategory),
  ("excel.register_all", registerAll)]

end Bindery.Generator.Excel
