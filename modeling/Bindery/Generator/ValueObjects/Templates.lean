import Bindery.Generator.Kit

/-! The templates of the value object platform. -/
namespace Bindery.Generator.ValueObjects

/-- The classes of a category. -/
def header : String := Text.lines [
  "#ifndef ${lib_root}_vo_${category}_hpp",
  "#define ${lib_root}_vo_${category}_hpp",
  "",
  "#include <oh/valueobject.hpp>",
  "#include <boost/serialization/vector.hpp>",
  "#include <set>",
  "#include <string>",
  "#include <vector>",
  "",
  "namespace ${namespace} \x7b namespace ValueObjects \x7b",
  "",
  "${classes}",
  "\x7d \x7d",
  "",
  "#endif",
  ""]

/-- A class. -/
def declaration : String := Text.lines [
  "    class ${name} : public ObjectHandler::ValueObject \x7b",
  "        friend class boost::serialization::access;",
  "    public:",
  "        ${name}() \x7b\x7d",
  "        ${name}(",
  "            const std::string& ObjectId,",
  "${parameters}            bool Permanent);",
  "",
  "        const std::set<std::string>& getSystemPropertyNames() const;",
  "        std::vector<std::string> getPropertyNamesVector() const;",
  "        ObjectHandler::property_t getSystemProperty(const std::string&) const;",
  "        void setSystemProperty(const std::string& name, const ObjectHandler::property_t& value);",
  "",
  "    protected:",
  "        static const char* mPropertyNames[];",
  "        static std::set<std::string> mSystemPropertyNames;",
  "${members}",
  "        template<class Archive>",
  "        void serialize(Archive& ar, const unsigned int) \x7b",
  "            boost::serialization::void_cast_register<${name}, ObjectHandler::ValueObject>(this, this);",
  "            ar  & boost::serialization::make_nvp(\"ObjectId\", objectId_)",
  "                & boost::serialization::make_nvp(\"ClassName\", className_)",
  "${serialize}                & boost::serialization::make_nvp(\"Permanent\", permanent_)",
  "                & boost::serialization::make_nvp(\"UserProperties\", userProperties);",
  "        \x7d",
  "    \x7d;",
  ""]

/-- The members of the classes of a category. -/
def source : String := Text.lines [
  "#include <${lib_root}/ValueObjects/vo_${category}.hpp>",
  "#include <oh/conversions/convert2.hpp>",
  "#include <boost/algorithm/string/predicate.hpp>",
  "",
  "namespace ${namespace} \x7b namespace ValueObjects \x7b",
  "",
  "${definitions}",
  "\x7d \x7d",
  ""]

/-- The members of a class. -/
def definition : String := Text.lines [
  "    const char* ${name}::mPropertyNames[] = \x7b",
  "        \"ObjectId\",",
  "        \"ClassName\",",
  "${property_names}        \"Permanent\"",
  "    \x7d;",
  "",
  "    std::set<std::string> ${name}::mSystemPropertyNames(",
  "        mPropertyNames, mPropertyNames + sizeof(mPropertyNames) / sizeof(const char*));",
  "",
  "    const std::set<std::string>& ${name}::getSystemPropertyNames() const \x7b",
  "        return mSystemPropertyNames;",
  "    \x7d",
  "",
  "    std::vector<std::string> ${name}::getPropertyNamesVector() const \x7b",
  "        std::vector<std::string> ret(",
  "            mPropertyNames, mPropertyNames + sizeof(mPropertyNames) / sizeof(const char*));",
  "        for (std::map<std::string, ObjectHandler::property_t>::const_iterator i = userProperties.begin();",
  "            i != userProperties.end(); ++i)",
  "            ret.push_back(i->first);",
  "        return ret;",
  "    \x7d",
  "",
  "    ObjectHandler::property_t ${name}::getSystemProperty(const std::string& name) const \x7b",
  "        if (boost::iequals(name, \"ObjectId\"))",
  "            return objectId_;",
  "        else if (boost::iequals(name, \"ClassName\"))",
  "            return className_;",
  "${get_property}        else if (boost::iequals(name, \"Permanent\"))",
  "            return permanent_;",
  "        else",
  "            OH_FAIL(\"Error: attempt to retrieve non-existent Property: '\" + name + \"'\");",
  "    \x7d",
  "",
  "    void ${name}::setSystemProperty(const std::string& name, const ObjectHandler::property_t& value) \x7b",
  "        if (boost::iequals(name, \"ObjectId\"))",
  "            objectId_ = boost::get<std::string>(value);",
  "        else if (boost::iequals(name, \"ClassName\"))",
  "            className_ = boost::get<std::string>(value);",
  "${set_property}        else if (boost::iequals(name, \"Permanent\"))",
  "            permanent_ = ObjectHandler::convert2<bool>(value);",
  "        else",
  "            OH_FAIL(\"Error: attempt to set non-existent Property: '\" + name + \"'\");",
  "    \x7d",
  "",
  "    ${name}::${name}(",
  "        const std::string& ObjectId,",
  "${definition_parameters}        bool Permanent) :",
  "        ObjectHandler::ValueObject(ObjectId, \"${name}\", Permanent)${initializers} \x7b",
  "    \x7d",
  ""]

/-- The templates by name. -/
def templates : List (String × String) := [
  ("copyright", copyright),
  ("vo.header", header),
  ("vo.declaration", declaration),
  ("vo.source", source),
  ("vo.definition", definition)]

end Bindery.Generator.ValueObjects
