import Bindery.Generator.Kit

/-! The templates of the serialization platform. -/
namespace Bindery.Generator.Serialization

/-- The declarations of the creators of a category. -/
def header : String := Text.lines [
  "#ifndef ${lib_root}_create_${category}_hpp",
  "#define ${lib_root}_create_${category}_hpp",
  "",
  "#include <oh/object.hpp>",
  "#include <oh/valueobject.hpp>",
  "#include <boost/shared_ptr.hpp>",
  "",
  "namespace ${namespace} \x7b",
  "",
  "${declarations}",
  "\x7d // namespace ${namespace}",
  "",
  "#endif",
  ""]

/-- The declaration of a creator. -/
def declaration : String := Text.lines [
  "    boost::shared_ptr<ObjectHandler::Object> create_${name}(",
  "        const boost::shared_ptr<ObjectHandler::ValueObject>&);",
  ""]

/-- The creators of a category. -/
def source : String := Text.lines [
  "#include <${lib_root}/Serialization/create_${category}.hpp>",
  "${includes}#include <${lib_root}/ValueObjects/vo_${category}.hpp>",
  "",
  "#include <oh/conversions/convert2.hpp>",
  "",
  "${creators}",
  ""]

/-- A creator. -/
def creator : String := Text.lines [
  "boost::shared_ptr<ObjectHandler::Object> ${namespace}::create_${name}(",
  "    const boost::shared_ptr<ObjectHandler::ValueObject> &valueObject) \x7b",
  "",
  "${conversions}    bool Permanent =",
  "        ObjectHandler::convert2<bool>(valueObject->getProperty(\"Permanent\"));",
  "",
  "    boost::shared_ptr<ObjectHandler::Object> object(",
  "        new ${namespace}::${library_function}(valueObject${library_call}, Permanent));",
  "    return object;",
  "\x7d",
  ""]

/-- The header that includes the headers of all categories. -/
def allHeader : String := Text.lines [
  "#ifndef ${lib_root}_create_all_hpp",
  "#define ${lib_root}_create_all_hpp",
  "",
  "${includes}",
  "#endif",
  ""]

/-- The factory that knows all creators. -/
def factory : String := Text.lines [
  "#include <${lib_root}/Serialization/serializationfactory.hpp>",
  "#include <${lib_root}/Serialization/create_all.hpp>",
  "",
  "namespace ${namespace} \x7b",
  "",
  "    SerializationFactory::SerializationFactory() \x7b",
  "${registrations}    \x7d",
  "",
  "\x7d // namespace ${namespace}",
  ""]

/-- The comment before the creators of a category in the factory. -/
def registerCategory : String := Text.lines [
  "",
  "        // ${display_name}",
  "",
  ""]

/-- A creator in the factory. -/
def registerCreator : String := Text.lines [
  "        registerCreator(\"${name}\", create_${name});",
  ""]

/-- The templates by name. -/
def templates : List (String × String) := [
  ("copyright", copyright),
  ("serialization.header", header),
  ("serialization.declaration", declaration),
  ("serialization.source", source),
  ("serialization.creator", creator),
  ("serialization.all", allHeader),
  ("serialization.factory", factory),
  ("serialization.register_category", registerCategory),
  ("serialization.register", registerCreator)]

end Bindery.Generator.Serialization
