import Highlight.Number.Decimal

/-!
JSON values, and the causes for which a text is refused as one.
-/

set_option autoImplicit false

namespace Highlight

/-- What a numeral stands for. A numeral without a fraction and an exponent stands for an integer if
it lies between the bounds of 64-bit words, and every other for the nearest double. -/
inductive Numeral where
  | natural (count : Nat)
  | negative (magnitude : Nat)
  | fractional (value : Double)
  /-- A length, which is written with as many digits as tell it from other lengths. -/
  | length (value : Single)
  deriving DecidableEq, Repr, Inhabited

namespace Numeral

def render : Numeral → String
  | natural count => toString count
  | negative magnitude => "-" ++ toString magnitude
  | fractional value => DecimalStyle.double.renderFinite value
  | length value => DecimalStyle.single.renderFinite value

def toSingle : Numeral → Single
  | natural count => .ofNat count
  | negative magnitude => Binary.negate (.ofNat magnitude)
  | fractional value => value.convert .single
  | length value => value

end Numeral

/-- JSON values. An object that is read has each name once, in the order of the names; one that is
written has its members in the order in which they are to stand. -/
inductive Json where
  | null
  | bool (value : Bool)
  | number (value : Numeral)
  | string (value : String)
  | array (items : List Json)
  | object (members : List (String × Json))
  deriving Repr, Inhabited

namespace Json

def insertMember (name : String) (value : Json) : List (String × Json) → List (String × Json)
  | [] => [(name, value)]
  | (first, own) :: others =>
    if name < first then (name, value) :: (first, own) :: others
    else if name = first then (first, value) :: others
    else (first, own) :: insertMember name value others

inductive Cause where
  | listUnclosed
  | objectUnclosed
  | stringUnclosed
  | valueMissing
  | colonExpected
  | listSeparatorExpected
  | objectSeparatorExpected
  | wordExpected
  | valueExpected
  | keyExpected
  | escapeInvalid
  | escapeUnfinished
  | surrogateAlone
  | controlCharacter
  | numberInvalid
  | numberTooLarge
  | trailingComma
  | trailingCharacters
  | nestingTooDeep
  | wrongType (found expected : String)
  | wrongValue (found expected : String)
  | wrongLength (length : Nat) (expected : String)
  | unknownVariant (name : String) (variants : List String)
  | missingField (name : String)
  | duplicateField (name : String)
  /-- The value is of the right shape but means nothing. -/
  | refused (reason : String)
  deriving DecidableEq, Repr, Inhabited

namespace Cause

def quoted (name : String) : String :=
  "`" ++ name ++ "`"

def message : Cause → String
  | listUnclosed => "EOF while parsing a list"
  | objectUnclosed => "EOF while parsing an object"
  | stringUnclosed => "EOF while parsing a string"
  | valueMissing => "EOF while parsing a value"
  | colonExpected => "expected `:`"
  | listSeparatorExpected => "expected `,` or `]`"
  | objectSeparatorExpected => "expected `,` or `\x7d`"
  | wordExpected => "expected ident"
  | valueExpected => "expected value"
  | keyExpected => "key must be a string"
  | escapeInvalid => "invalid escape"
  | escapeUnfinished => "unexpected end of hex escape"
  | surrogateAlone => "lone leading surrogate in hex escape"
  | controlCharacter => "control character (\\u0000-\\u001F) found while parsing a string"
  | numberInvalid => "invalid number"
  | numberTooLarge => "number out of range"
  | trailingComma => "trailing comma"
  | trailingCharacters => "trailing characters"
  | nestingTooDeep => "recursion limit exceeded"
  | wrongType found expected => "invalid type: " ++ found ++ ", expected " ++ expected
  | wrongValue found expected => "invalid value: " ++ found ++ ", expected " ++ expected
  | wrongLength length expected =>
    "invalid length " ++ toString length ++ ", expected " ++ expected
  | unknownVariant name variants =>
    "unknown variant " ++ quoted name ++ ", expected one of " ++
      String.intercalate ", " (variants.map quoted)
  | missingField name => "missing field " ++ quoted name
  | duplicateField name => "duplicate field " ++ quoted name
  | refused reason => reason

end Cause

end Json

end Highlight
