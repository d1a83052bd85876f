import DataBinding.Pattern.Repertoire
import DataBinding.Text.Case
import DataBinding.Text.Fold

namespace DataBinding.Pattern.Property

open Text Repertoire

def otherAlphabetic : CharSet := known Text.Property.alphabeticMarks

def alphabetic : CharSet := .unions [letter, letterNumber, otherAlphabetic]

def otherLowercase : CharSet := known Text.Property.lowercaseExtras

def lowercase : CharSet := lowercaseLetter.union otherLowercase

def otherUppercase : CharSet := known Text.Property.uppercaseExtras

def uppercase : CharSet := uppercaseLetter.union otherUppercase

def cased : CharSet := .unions [lowercase, uppercase, titlecaseLetter]

def caseIgnorable : CharSet :=
  .unions [nonspacingMark, enclosingMark, format, modifierLetter, modifierSymbol,
    known Text.Property.caseIgnorableExtras]

def changesWhenLowercased : CharSet :=
  (known (Case.lowerShifts.map (·.span))).union (.single '\u0130')

/-- Letters whose uppercase form was added after version 16.0. -/
def lateCapitals : CharSet := .ofChars ['\ua7d3', '\ua7d5']

def changesWhenUppercased : CharSet :=
  ((known (Case.upperShifts.map (·.span))).union
    (.ofChars (Case.upperSequences.map fun (n, _) ↦ Char.ofNat n))).diff lateCapitals

/-- Georgian letters have capitals that do not start words. -/
def georgianLetter : CharSet := .ofSpans [⟨0x10D0, 0x10FA, 1⟩, ⟨0x10FD, 0x10FF, 1⟩]

def capitalDigraph : CharSet := .ofChars ['\u01c4', '\u01c7', '\u01ca', '\u01f1']

def changesWhenTitlecased : CharSet :=
  ((changesWhenUppercased.diff titlecaseLetter).diff georgianLetter).union capitalDigraph

def changesWhenCasemapped : CharSet :=
  .unions [changesWhenLowercased, changesWhenUppercased, changesWhenTitlecased]

/-- Characters whose folding, taken apart into letters and marks, is the same as they are. -/
def foldedAlready : CharSet := .ofChars ['\u1fbe', '\u1fd3', '\u1fe3']

def foldedToSequence : CharSet := .ofSpans
  [⟨0xDF, 0xDF, 1⟩, ⟨0x130, 0x130, 1⟩, ⟨0x149, 0x149, 1⟩, ⟨0x587, 0x587, 1⟩, ⟨0x1E9A, 0x1E9A, 1⟩,
   ⟨0x1F80, 0x1F87, 1⟩, ⟨0x1F90, 0x1F97, 1⟩, ⟨0x1FA0, 0x1FA7, 1⟩, ⟨0x1FB2, 0x1FB4, 1⟩,
   ⟨0x1FB7, 0x1FB7, 1⟩, ⟨0x1FC2, 0x1FC4, 1⟩, ⟨0x1FC7, 0x1FC7, 1⟩, ⟨0x1FF2, 0x1FF4, 1⟩,
   ⟨0x1FF7, 0x1FF7, 1⟩, ⟨0xFB00, 0xFB04, 1⟩, ⟨0xFB06, 0xFB06, 1⟩, ⟨0xFB13, 0xFB17, 1⟩]

def changesWhenCasefolded : CharSet :=
  ((CharSet.ofSpans (Fold.foldShifts.map (·.span))).diff foldedAlready).union foldedToSequence

def softDotted : CharSet := .ofSpans
  [⟨0x69, 0x6A, 1⟩, ⟨0x12F, 0x12F, 1⟩, ⟨0x249, 0x249, 1⟩, ⟨0x268, 0x268, 1⟩, ⟨0x29D, 0x29D, 1⟩,
   ⟨0x2B2, 0x2B2, 1⟩, ⟨0x3F3, 0x3F3, 1⟩, ⟨0x456, 0x458, 2⟩, ⟨0x1D62, 0x1D62, 1⟩,
   ⟨0x1D96, 0x1D96, 1⟩, ⟨0x1DA4, 0x1DA4, 1⟩, ⟨0x1DA8, 0x1DA8, 1⟩, ⟨0x1E2D, 0x1E2D, 1⟩,
   ⟨0x1ECB, 0x1ECB, 1⟩, ⟨0x2071, 0x2071, 1⟩, ⟨0x2148, 0x2149, 1⟩, ⟨0x2C7C, 0x2C7C, 1⟩,
   ⟨0x1D422, 0x1D423, 1⟩, ⟨0x1D456, 0x1D457, 1⟩, ⟨0x1D48A, 0x1D48B, 1⟩, ⟨0x1D4BE, 0x1D4BF, 1⟩,
   ⟨0x1D4F2, 0x1D4F3, 1⟩, ⟨0x1D526, 0x1D527, 1⟩, ⟨0x1D55A, 0x1D55B, 1⟩, ⟨0x1D58E, 0x1D58F, 1⟩,
   ⟨0x1D5C2, 0x1D5C3, 1⟩, ⟨0x1D5F6, 0x1D5F7, 1⟩, ⟨0x1D62A, 0x1D62B, 1⟩, ⟨0x1D65E, 0x1D65F, 1⟩,
   ⟨0x1D692, 0x1D693, 1⟩, ⟨0x1DF1A, 0x1DF1A, 1⟩, ⟨0x1E04C, 0x1E04D, 1⟩, ⟨0x1E068, 0x1E068, 1⟩]

end DataBinding.Pattern.Property
