import DataBinding.Text.Version

namespace DataBinding.Pattern.Repertoire

open Text

/-- The characters and noncharacters that patterns know. -/
def all : CharSet := Version.repertoire ⟨16, 0⟩

def known (spans : List Span) : CharSet := (CharSet.ofSpans spans).inter all

/-- A letter whose category changed after version 16.0. -/
def fricative : CharSet := .single 'ʕ'

def uppercaseLetter : CharSet := known Category.uppercaseLetter

def lowercaseLetter : CharSet := (known Category.lowercaseLetter).union fricative

def titlecaseLetter : CharSet := known Category.titlecaseLetter

def modifierLetter : CharSet := known Category.modifierLetter

def otherLetter : CharSet := (known Category.otherLetter).diff fricative

def casedLetter : CharSet := .unions [uppercaseLetter, lowercaseLetter, titlecaseLetter]

def letter : CharSet := .unions [casedLetter, modifierLetter, otherLetter]

def nonspacingMark : CharSet := known Category.nonspacingMark

def spacingMark : CharSet := known Category.spacingMark

def enclosingMark : CharSet := known Category.enclosingMark

def mark : CharSet := .unions [nonspacingMark, spacingMark, enclosingMark]

def decimalNumber : CharSet := known Category.decimalNumber

def letterNumber : CharSet := known Category.letterNumber

def otherNumber : CharSet := known Category.otherNumber

def number : CharSet := .unions [decimalNumber, letterNumber, otherNumber]

def connectorPunctuation : CharSet := known Category.connectorPunctuation

def dashPunctuation : CharSet := known Category.dashPunctuation

def openPunctuation : CharSet := known Category.openPunctuation

def closePunctuation : CharSet := known Category.closePunctuation

def initialPunctuation : CharSet := known Category.initialPunctuation

def finalPunctuation : CharSet := known Category.finalPunctuation

def otherPunctuation : CharSet := known Category.otherPunctuation

def punctuation : CharSet :=
  .unions [connectorPunctuation, dashPunctuation, openPunctuation, closePunctuation,
    initialPunctuation, finalPunctuation, otherPunctuation]

def mathSymbol : CharSet := known Category.mathSymbol

def currencySymbol : CharSet := known Category.currencySymbol

def modifierSymbol : CharSet := known Category.modifierSymbol

def otherSymbol : CharSet := known Category.otherSymbol

def symbol : CharSet := .unions [mathSymbol, currencySymbol, modifierSymbol, otherSymbol]

def spaceSeparator : CharSet := known Category.spaceSeparator

def lineSeparator : CharSet := known Category.lineSeparator

def paragraphSeparator : CharSet := known Category.paragraphSeparator

def separator : CharSet := .unions [spaceSeparator, lineSeparator, paragraphSeparator]

def control : CharSet := known Category.control

def format : CharSet := known Category.format

def privateUse : CharSet := known Category.privateUse

def graphic : CharSet := .unions [letter, mark, number, punctuation, symbol, separator]

def other : CharSet := graphic.compl

def assigned : CharSet := .unions [graphic, control, format, privateUse]

def unassigned : CharSet := assigned.compl

end DataBinding.Pattern.Repertoire
