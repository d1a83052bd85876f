import DataBinding.Text.Category.Letter
import DataBinding.Text.Category.Mark
import DataBinding.Text.Category.Numeral
import DataBinding.Text.Category.Punctuation
import DataBinding.Text.Category.Separator
import DataBinding.Text.Category.Symbol

namespace DataBinding.Text

namespace Category

def letter : List (List Span) :=
  [uppercaseLetter, lowercaseLetter, titlecaseLetter, modifierLetter, otherLetter]

def casedLetter : List (List Span) := [uppercaseLetter, lowercaseLetter, titlecaseLetter]

def mark : List (List Span) := [nonspacingMark, spacingMark, enclosingMark]

def numeral : List (List Span) := [decimalNumber, letterNumber, otherNumber]

def punctuation : List (List Span) :=
  [connectorPunctuation, dashPunctuation, openPunctuation, closePunctuation, initialPunctuation,
   finalPunctuation, otherPunctuation]

def symbol : List (List Span) := [mathSymbol, currencySymbol, modifierSymbol, otherSymbol]

def separator : List (List Span) := [spaceSeparator, lineSeparator, paragraphSeparator]

def assigned : List (List Span) :=
  letter ++ mark ++ numeral ++ punctuation ++ symbol ++ separator ++ [control, format, privateUse]

end Category

def hasCategory (categories : List (List Span)) (c : Char) : Bool :=
  categories.any (inSpans · c)

end DataBinding.Text
