import Bindery.Generator.Kit

/-! The templates of the documentation. -/
namespace Bindery.Generator.Doxygen

/-- The page that lists all functions. -/
def allPage : String := Text.lines [
  "/*! \\page func_all All Functions",
  "",
  "\\section functionlist Function List",
  "${function_list}",
  "*/",
  ""]

/-- The page of a category. -/
def categoryPage : String := Text.lines [
  "/*! \\page func_${category} ${display_name}",
  "",
  "\\section overview Overview",
  "${description}",
  "",
  "\\section functionlist Function List",
  "${function_list}",
  "",
  "\\section documentation Function Documentation",
  "${functions}*/",
  ""]

/-- A row of the table of an enumeration. -/
def enumerationRow : String := Text.lines [
  "<tr><td>${string}</td><td>${value}</td></tr>",
  ""]

/-- The section of an enumeration. -/
def enumerationSection : String := Text.lines [
  "\\section enum_${name} ${name}",
  "${description}",
  "Class: ${class}",
  "",
  "<table>",
  "<tr><td><b>String</b></td><td><b>Value</b></td></tr>",
  "${rows}</table>",
  ""]

/-- The page of the enumerations. -/
def enumerationPage : String := Text.lines [
  "/*! \\page enums Enumerations",
  "",
  "${enumerations}*/",
  ""]

/-- The section of a function. -/
def functionSection : String := Text.lines [
  "\\anchor ${name}",
  "\\code",
  "${return_type} ${name}(${signature})",
  "\\endcode",
  "\\par Description:",
  "${description}",
  "\\par Supported Platforms:",
  "${platforms}",
  "${parameter_docs}\\return ${return_description}",
  ""]

/-- A function in a list. -/
def listItem : String := Text.lines [
  "\\ref ${name} ()<br>"]

/-- The templates by name. -/
def templates : List (String × String) := [
  ("copyright", copyright),
  ("doxygen.all", allPage),
  ("doxygen.category", categoryPage),
  ("doxygen.enum_row", enumerationRow),
  ("doxygen.enumeration", enumerationSection),
  ("doxygen.enums", enumerationPage),
  ("doxygen.function", functionSection),
  ("doxygen.list_item", listItem)]

end Bindery.Generator.Doxygen
