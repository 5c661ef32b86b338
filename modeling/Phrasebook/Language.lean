import Phrasebook.Bisection
import Phrasebook.Text.Blank
import Phrasebook.Text.Lower

/-!
# Phrasebook.Language

Language codes: the two-letter codes of ISO 639-1.

A code is looked up without the blanks at its ends and in lower case (`normalize`), so that all
spellings of a language share one form.  The table is part of the library: a document means the same
on every machine.
-/

namespace Phrasebook.Language

open Text

/-- The edition of the table. -/
def tableVersion : String := "2023-01"

/-- English, the language that the sentences themselves are written in. -/
def english : String := "en"

/-- The two-letter codes of ISO 639-1 in ascending order. -/
def codes : Array String :=
  #[
    "aa", "ab", "ae", "af", "ak", "am", "an", "ar", "as", "av", "ay", "az", "ba", "be", "bg",
    "bi", "bm", "bn", "bo", "br", "bs", "ca", "ce", "ch", "co", "cr", "cs", "cu", "cv", "cy",
    "da", "de", "dv", "dz", "ee", "el", "en", "eo", "es", "et", "eu", "fa", "ff", "fi", "fj",
    "fo", "fr", "fy", "ga", "gd", "gl", "gn", "gu", "gv", "ha", "he", "hi", "ho", "hr", "ht",
    "hu", "hy", "hz", "ia", "id", "ie", "ig", "ii", "ik", "io", "is", "it", "iu", "ja", "jv",
    "ka", "kg", "ki", "kj", "kk", "kl", "km", "kn", "ko", "kr", "ks", "ku", "kv", "kw", "ky",
    "la", "lb", "lg", "li", "ln", "lo", "lt", "lu", "lv", "mg", "mh", "mi", "mk", "ml", "mn",
    "mr", "ms", "mt", "my", "na", "nb", "nd", "ne", "ng", "nl", "nn", "no", "nr", "nv", "ny",
    "oc", "oj", "om", "or", "os", "pa", "pi", "pl", "ps", "pt", "qu", "rm", "rn", "ro", "ru",
    "rw", "sa", "sc", "sd", "se", "sg", "si", "sk", "sl", "sm", "sn", "so", "sq", "sr", "ss",
    "st", "su", "sv", "sw", "ta", "te", "tg", "th", "ti", "tk", "tl", "tn", "to", "tr", "ts",
    "tt", "tw", "ty", "ug", "uk", "ur", "uz", "ve", "vi", "vo", "wa", "wo", "xh", "yi", "yo",
    "za", "zh", "zu"]

/-- Why a text is no language code. -/
inductive Error where
  | empty
  | unknown (code : String)
  deriving DecidableEq, Repr

/-- The error in words. -/
def Error.message : Error → String
  | empty => "Language is empty"
  | unknown code => "'" ++ code ++ "' is not a valid TwoLetterISOLanguageName"

/-- A code without blanks at its ends and in lower case. -/
def normalize (code : String) : String := String.ofList (lower (trim code.toList))

/-- Whether a text is a code of the table as it stands. -/
def isListed (code : String) : Bool :=
  codes[bisect (fun i => codes.getD i "" < code) 0 codes.size]? == some code

/-- The normal form of a code, if it is in the table. -/
def validate (code : String) : Except Error String :=
  let normal := normalize code
  if normal = "" then .error .empty
  else if isListed normal then .ok normal
  else .error (.unknown code)

end Phrasebook.Language
