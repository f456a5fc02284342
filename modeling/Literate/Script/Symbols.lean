import Literate.Text.Basic

/-!
# Conditional symbols

The symbols that are defined for a script: the ones given as such, and the ones given by a
compiler option. Only membership matters, not order or repetition.
-/

namespace Literate

/-- The spellings of a compiler option that defines a symbol. -/
def defineOptionLeads : List Text :=
  ["--define:".toList, "--define=".toList, "-d:".toList, "-d=".toList]

/-- The symbol that a compiler option defines, if it is an option of that kind. -/
def symbolOfOption? (option : Text) : Option Text :=
  defineOptionLeads.findSome? fun lead => lead.isPrefixOf? option

/-- Every symbol defined by a list of symbols and a list of compiler options. The empty
symbol is never defined. -/
def definedSymbols (defines compilerOptions : List Text) : List Text :=
  (defines ++ compilerOptions.filterMap symbolOfOption?).filter (!·.isEmpty)

end Literate
