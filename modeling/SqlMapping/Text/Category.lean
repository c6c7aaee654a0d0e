import SqlMapping.Text.LetterTable
import SqlMapping.Text.MarkTable
import SqlMapping.Text.SymbolTable

/-!
# General categories

Every character that has a meaning belongs to one general category.  The tables are those of
Unicode 16.0.
-/

namespace SqlMapping.Text

/-- The general categories of the characters that have a meaning. -/
inductive Category where
  | upperLetter
  | lowerLetter
  | titleLetter
  | modifierLetter
  | otherLetter
  | nonspacingMark
  | spacingMark
  | enclosingMark
  | decimalDigit
  | letterNumber
  | otherNumber
  | connector
  | dash
  | openBracket
  | closeBracket
  | initialQuote
  | finalQuote
  | otherPunctuation
  | mathSymbol
  | currencySymbol
  | modifierSymbol
  | otherSymbol
  | spaceSeparator
  | lineSeparator
  | paragraphSeparator
  | control
  | format
  | privateUse
deriving DecidableEq

namespace Category

/-- The code points of a category. -/
def runs : Category → List CodeRun
  | upperLetter => upperLetterRuns
  | lowerLetter => lowerLetterRuns
  | titleLetter => titleLetterRuns
  | modifierLetter => modifierLetterRuns
  | otherLetter => otherLetterRuns
  | nonspacingMark => nonspacingMarkRuns
  | spacingMark => spacingMarkRuns
  | enclosingMark => enclosingMarkRuns
  | decimalDigit => decimalDigitRuns
  | letterNumber => letterNumberRuns
  | otherNumber => otherNumberRuns
  | connector => connectorRuns
  | dash => dashRuns
  | openBracket => openBracketRuns
  | closeBracket => closeBracketRuns
  | initialQuote => initialQuoteRuns
  | finalQuote => finalQuoteRuns
  | otherPunctuation => otherPunctuationRuns
  | mathSymbol => mathSymbolRuns
  | currencySymbol => currencySymbolRuns
  | modifierSymbol => modifierSymbolRuns
  | otherSymbol => otherSymbolRuns
  | spaceSeparator => spaceSeparatorRuns
  | lineSeparator => lineSeparatorRuns
  | paragraphSeparator => paragraphSeparatorRuns
  | control => controlRuns
  | format => formatRuns
  | privateUse => privateUseRuns

/-- Whether a character is of a category. -/
def holds (category : Category) (character : Char) : Bool :=
  inRuns category.runs character

/-- Whether a character is of one of some categories. -/
def anyHolds (categories : List Category) (character : Char) : Bool :=
  categories.any fun category => category.holds character

/-- The categories of the letters that have case. -/
def casedLetters : List Category := [upperLetter, lowerLetter, titleLetter]

/-- The categories of the letters. -/
def letters : List Category := casedLetters ++ [modifierLetter, otherLetter]

/-- The categories of the marks. -/
def marks : List Category := [nonspacingMark, spacingMark, enclosingMark]

/-- The categories of the numbers. -/
def numbers : List Category := [decimalDigit, letterNumber, otherNumber]

/-- The categories of the punctuation. -/
def punctuation : List Category :=
  [connector, dash, openBracket, closeBracket, initialQuote, finalQuote, otherPunctuation]

/-- The categories of the symbols. -/
def symbols : List Category := [mathSymbol, currencySymbol, modifierSymbol, otherSymbol]

/-- The categories of the separators. -/
def separators : List Category := [spaceSeparator, lineSeparator, paragraphSeparator]

/-- All categories. -/
def all : List Category :=
  letters ++ marks ++ numbers ++ punctuation ++ symbols ++ separators
    ++ [control, format, privateUse]

/-- A character of more categories is asked after one list or the other. -/
@[simp]
theorem anyHolds_append
    (first second : List Category)
    (character : Char) :
    anyHolds (first ++ second) character
      = (anyHolds first character || anyHolds second character) := by
  simp [anyHolds]

end Category

end SqlMapping.Text
