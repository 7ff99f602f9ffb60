import Bindery.Generator.Kit

/-! The templates of the registration of value object classes. -/
namespace Bindery.Generator.Registration

/-- The declaration of the registrations of a category. -/
def header : String := Text.lines [
  "#ifndef ${guard}_serialization_${category}_hpp",
  "#define ${guard}_serialization_${category}_hpp",
  "",
  "#include <boost/archive/xml_iarchive.hpp>",
  "#include <boost/archive/xml_oarchive.hpp>",
  "",
  "namespace ${addin_namespace} \x7b",
  "",
  "    void register_${category}(boost::archive::xml_oarchive &ar);",
  "    void register_${category}(boost::archive::xml_iarchive &ar);",
  "",
  "\x7d // namespace ${addin_namespace}",
  "",
  "#endif",
  ""]

/-- The registrations of a category. -/
def source : String := Text.lines [
  "#include <${include_dir}/Serialization/serialization_${category}.hpp>",
  "#include <${lib_root}/ValueObjects/vo_${category}.hpp>",
  "#include <boost/serialization/shared_ptr.hpp>",
  "",
  "namespace ${addin_namespace} \x7b",
  "",
  "    template<class Archive>",
  "    void tpl_register_${category}(Archive &ar) \x7b",
  "",
  "${registrations}    \x7d",
  "",
  "    void register_${category}(boost::archive::xml_oarchive &ar) \x7b",
  "        tpl_register_${category}(ar);",
  "    \x7d",
  "",
  "    void register_${category}(boost::archive::xml_iarchive &ar) \x7b",
  "        tpl_register_${category}(ar);",
  "    \x7d",
  "",
  "\x7d // namespace ${addin_namespace}",
  ""]

/-- The registration of a class. -/
def registerType : String := Text.lines [
  "        ar.register_type<${namespace}::ValueObjects::${name}>();",
  ""]

/-- The header that includes the headers of all categories. -/
def allHeader : String := Text.lines [
  "#ifndef ${guard}_serialization_all_hpp",
  "#define ${guard}_serialization_all_hpp",
  "",
  "${includes}",
  "#endif",
  ""]

/-- A header in the header of all categories. -/
def includeLine : String := Text.lines [
  "#include <${include_dir}/Serialization/serialization_${category}.hpp>",
  ""]

/-- The registrations of an addin. -/
def factory : String := Text.lines [
  "#include <${include_dir}/Serialization/serialization_all.hpp>",
  "#include <boost/archive/xml_iarchive.hpp>",
  "#include <boost/archive/xml_oarchive.hpp>",
  "",
  "namespace ${addin_namespace} \x7b",
  "",
  "    template<class Archive>",
  "    void tpl_register_classes(Archive &ar) \x7b",
  "",
  "${registrations}    \x7d",
  "",
  "    void register_out(boost::archive::xml_oarchive &oa) \x7b",
  "${base_out}        tpl_register_classes(oa);",
  "    \x7d",
  "",
  "    void register_in(boost::archive::xml_iarchive &ia) \x7b",
  "${base_in}        tpl_register_classes(ia);",
  "    \x7d",
  "",
  "\x7d // namespace ${addin_namespace}",
  ""]

/-- The call of the registrations of a category. -/
def registerCategory : String := Text.lines [
  "        // ${display_name}",
  "",
  "        register_${category}(ar);",
  "",
  ""]

/-- The call of the base registrations for writing. -/
def baseOut : String := Text.lines [
  "        ${base}::register_out(oa);",
  ""]

/-- The call of the base registrations for reading. -/
def baseIn : String := Text.lines [
  "        ${base}::register_in(ia);",
  ""]

/-- The templates by name. -/
def templates : List (String × String) := [
  ("registration.header", header),
  ("registration.source", source),
  ("registration.register_type", registerType),
  ("registration.all", allHeader),
  ("registration.include", includeLine),
  ("registration.factory", factory),
  ("registration.register_category", registerCategory),
  ("registration.base_out", baseOut),
  ("registration.base_in", baseIn)]

end Bindery.Generator.Registration
