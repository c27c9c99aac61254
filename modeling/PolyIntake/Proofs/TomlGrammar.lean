/-
This file says which texts are configuration files, by a grammar for every part
of one. The grammar does not say how a part is found: what a number or a string
is does not depend on what follows it, and no derivation counts steps.

A derivation is indexed by what is written: the name, the number, the content of
a string. Which keys may follow which is left to the tables: a line is derived
from the document in front of it to the document behind it, and there is none
behind a line that the tables refuse.

The format knows no limit to the digits of an integer, but the reader has one. So
the grammar has it as a parameter: the documents are those without a limit, and
those within the limit of the reader are fewer.

Lines end with a line feed. In a file, a carriage return in front of a line feed
belongs to the end of the line, and any other carriage return is a character that
no part of a file may have.
-/

import PolyIntake.Proofs.Decoding
import PolyIntake.Toml.Parser

namespace PolyIntake

namespace Toml

/-- A part that may be left out. -/
def IsOptional (derived : List Char → Prop) (text : List Char) : Prop :=
  text = [] ∨ derived text

/-! ### Numbers -/

/-- A digit to a base, as a letter beyond nine. -/
def isDigitTo (base : Nat) (char : Char) : Bool :=
  (Json.hexDigit? char).any (· < base)

/-- A run of digits. Single underscores may stand between them. -/
inductive IsRun (isDigit : Char → Bool) : List Char → List Char → Prop where
  | last {digit : Char} (isOne : isDigit digit = true) : IsRun isDigit [digit] [digit]
  | next {digit : Char} {text digits : List Char} (isOne : isDigit digit = true)
      (more : IsRun isDigit text digits) : IsRun isDigit (digit :: text) (digit :: digits)
  | spaced {digit : Char} {text digits : List Char} (isOne : isDigit digit = true)
      (more : IsRun isDigit text digits) : IsRun isDigit (digit :: '_' :: text) (digit :: digits)

/-- A sign that may be left out, and whether it makes a number negative. -/
inductive IsSign : List Char → Bool → Prop where
  | none : IsSign [] false
  | minus : IsSign ['-'] true
  | plus : IsSign ['+'] false

/-- A decimal run without a leading zero, or zero. -/
inductive IsWhole : List Char → List Char → Prop where
  | zero : IsWhole ['0'] ['0']
  | run {text digits : List Char} (run : IsRun Char.isDigit text digits)
      (noZero : text.head? ≠ some '0') : IsWhole text digits

/-- A point and decimal digits. -/
inductive IsFraction : List Char → List Char → Prop where
  | mk {text digits : List Char} (run : IsRun Char.isDigit text digits) :
      IsFraction ('.' :: text) digits

/-- A number with a sign. -/
def signed (negative : Bool) (number : Int) : Int :=
  if negative then -number else number

/-- The letter of an exponent and a number, which may have leading zeros. -/
inductive IsExponent : List Char → Int → Prop where
  | mk {mark : Char} {sign text digits : List Char} {negative : Bool}
      (isMark : mark = 'e' ∨ mark = 'E') (isSign : IsSign sign negative)
      (run : IsRun Char.isDigit text digits) :
      IsExponent (mark :: sign ++ text) (signed negative (Nat.ofDigitChars 10 digits 0))

/-- The most digits that an integer in decimal may have to be read. -/
abbrev readLimit : Option Nat :=
  some Decimal.longest

/-- A number with its value: a whole one in decimal or to another base, one with a fraction or an
exponent, or one that is not finite. The digits of a whole one in decimal may have a limit. -/
inductive IsNumber (limit : Option Nat) : List Char → Value → Prop where
  | whole {sign whole digits : List Char} {negative : Bool} (isSign : IsSign sign negative)
      (isWhole : IsWhole whole digits) (few : ∀ most ∈ limit, digits.length ≤ most) :
      IsNumber limit (sign ++ whole) (.int (signed negative (ofDigits 10 digits)))
  | based {letter : Char} {base : Nat} {text digits : List Char}
      (isBase : (letter, base) ∈ [('x', 16), ('o', 8), ('b', 2)])
      (run : IsRun (isDigitTo base) text digits) :
      IsNumber limit ('0' :: letter :: text) (.int (ofDigits base digits))
  | fraction {sign whole digits fraction digits' : List Char} {negative : Bool}
      (isSign : IsSign sign negative) (isWhole : IsWhole whole digits)
      (isFraction : IsFraction fraction digits') :
      IsNumber limit (sign ++ whole ++ fraction)
        (.float (Decimal.float negative (digits ++ digits') (-digits'.length)))
  | exponent {sign whole digits exponent : List Char} {negative : Bool} {place : Int}
      (isSign : IsSign sign negative) (isWhole : IsWhole whole digits)
      (isExponent : IsExponent exponent place) :
      IsNumber limit (sign ++ whole ++ exponent) (.float (Decimal.float negative digits place))
  | both {sign whole digits fraction digits' exponent : List Char} {negative : Bool} {place : Int}
      (isSign : IsSign sign negative) (isWhole : IsWhole whole digits)
      (isFraction : IsFraction fraction digits') (isExponent : IsExponent exponent place) :
      IsNumber limit (sign ++ whole ++ fraction ++ exponent)
        (.float (Decimal.float negative (digits ++ digits') (place - digits'.length)))
  | infinite {sign : List Char} {negative : Bool} (isSign : IsSign sign negative) :
      IsNumber limit (sign ++ ['i', 'n', 'f']) (.float (if negative then -1 / 0 else 1 / 0))
  | undefined {sign : List Char} {negative : Bool} (isSign : IsSign sign negative) :
      IsNumber limit (sign ++ ['n', 'a', 'n']) (.float (0 / 0))

/-! ### Moments -/

/-- A number of so many digits. -/
structure IsFixed (count value : Nat) (text : List Char) : Prop where
  length : text.length = count
  isDigit : ∀ char ∈ text, char.isDigit = true
  value : Nat.ofDigitChars 10 text 0 = value

/-- A date that exists. -/
inductive IsDate : List Char → Prop where
  | mk {year month day : Nat} {text text' text'' : List Char} (isYear : IsFixed 4 year text)
      (isMonth : IsFixed 2 month text') (isDay : IsFixed 2 day text'')
      (someYear : 1 ≤ year) (someMonth : 1 ≤ month ∧ month ≤ 12)
      (someDay : 1 ≤ day ∧ day ≤ daysIn year month) :
      IsDate (text ++ '-' :: text' ++ '-' :: text'')

/-- A point and decimal digits that belong to the seconds. -/
inductive IsPartOfSecond : List Char → Prop where
  | mk {digits : List Char} (filled : digits ≠ [])
      (isDigit : ∀ char ∈ digits, char.isDigit = true) : IsPartOfSecond ('.' :: digits)

/-- A time of day. -/
inductive IsTime : List Char → Prop where
  | mk {hour minute second : Nat} {text text' text'' fraction : List Char}
      (isHour : IsFixed 2 hour text) (isMinute : IsFixed 2 minute text')
      (isSecond : IsFixed 2 second text'') (someHour : hour < 24) (someMinute : minute < 60)
      (someSecond : second < 60) (isFraction : IsOptional IsPartOfSecond fraction) :
      IsTime (text ++ ':' :: text' ++ ':' :: text'' ++ fraction)

/-- How far a time of day is off. -/
inductive IsOffset : List Char → Prop where
  | zero {letter : Char} (isLetter : letter = 'Z' ∨ letter = 'z') : IsOffset [letter]
  | shift {sign : Char} {hour minute : Nat} {text text' : List Char}
      (isSign : sign = '+' ∨ sign = '-') (isHour : IsFixed 2 hour text)
      (isMinute : IsFixed 2 minute text') (someHour : hour < 24) (someMinute : minute < 60) :
      IsOffset (sign :: text ++ ':' :: text')

/-- A date, a time of day, or both. -/
inductive IsMoment : List Char → Prop where
  | date {text : List Char} (isDate : IsDate text) : IsMoment text
  | time {text : List Char} (isTime : IsTime text) : IsMoment text
  | both {separator : Char} {date time offset : List Char} (isDate : IsDate date)
      (isSeparator : separator = 'T' ∨ separator = 't' ∨ separator = ' ') (isTime : IsTime time)
      (isOffset : IsOptional IsOffset offset) : IsMoment (date ++ separator :: time ++ offset)

/-! ### Strings -/

/-- What stands behind a backslash for a character. -/
inductive IsEscape : List Char → Char → Prop where
  | letter {letter char : Char}
      (isLetter : (letter, char) ∈ [('b', Char.ofNat 8), ('t', '\t'), ('n', '\n'),
        ('f', Char.ofNat 12), ('r', '\r'), ('"', '"'), ('\\', '\\')]) : IsEscape [letter] char
  | number {letter : Char} {count : Nat} {digits : List Char} {char : Char}
      (isLetter : (letter, count) ∈ [('u', 4), ('U', 8)]) (length : digits.length = count)
      (point : codePoint? digits = some char) : IsEscape (letter :: digits) char

/-- What stands between the quotes of a string, with what it stands for. Only between triple quotes
lines may end, and quotes may stand, but no three in a row: the derivation knows how many it stands
behind. Escapes are read between quotation marks only; there, a backslash at the end of a line
stands for nothing, along with all blanks and line feeds behind it. -/
inductive IsQuoted (quote : Char) (multiline : Bool) : Nat → List Char → List Char → Prop where
  | nil {quotes : Nat} : IsQuoted quote multiline quotes [] []
  | char {quotes : Nat} {char : Char} {text content : List Char}
      (isAllowed : isPlain char = true ∨ multiline = true ∧ char = '\n') (noQuote : char ≠ quote)
      (noMark : quote = '"' → char ≠ '\\') (more : IsQuoted quote multiline 0 text content) :
      IsQuoted quote multiline quotes (char :: text) (char :: content)
  | quote {quotes : Nat} {text content : List Char} (isMultiline : multiline = true)
      (few : quotes < 2) (more : IsQuoted quote multiline (quotes + 1) text content) :
      IsQuoted quote multiline quotes (quote :: text) (quote :: content)
  | escape {quotes : Nat} {char : Char} {escape text content : List Char} (isBasic : quote = '"')
      (isEscape : IsEscape escape char) (more : IsQuoted quote multiline 0 text content) :
      IsQuoted quote multiline quotes ('\\' :: escape ++ text) (char :: content)
  | continued {quotes : Nat} {blanks spaces text content : List Char} (isBasic : quote = '"')
      (isMultiline : multiline = true) (isBlanks : ∀ char ∈ blanks, isBlank char = true)
      (isSpaces : ∀ char ∈ spaces, isSpace char = true)
      (complete : ∀ char ∈ text.head?, isSpace char = false)
      (more : IsQuoted quote multiline 0 text content) :
      IsQuoted quote multiline quotes ('\\' :: blanks ++ '\n' :: spaces ++ text) content

/-- A string within a line, with what it stands for. -/
inductive IsString : List Char → List Char → Prop where
  | mk {quote : Char} {text content : List Char} (isQuote : quote = '\'' ∨ quote = '"')
      (quoted : IsQuoted quote false 0 text content) : IsString (quote :: text ++ [quote]) content

/-- A string over several lines, with what it stands for. A line feed right behind the opening
quotes does not count. -/
inductive IsLongString : List Char → List Char → Prop where
  | mk {quote : Char} {gap text content : List Char} (isQuote : quote = '\'' ∨ quote = '"')
      (isBreak : gap = ['\n'] ∨ gap = [] ∧ text.head? ≠ some '\n')
      (quoted : IsQuoted quote true 0 text content) :
      IsLongString ([quote, quote, quote] ++ gap ++ text ++ [quote, quote, quote]) content

/-! ### Blanks, comments and keys -/

/-- Blanks within a line. -/
def IsBlanks (text : List Char) : Prop :=
  ∀ char ∈ text, isBlank char = true

/-- A comment: a number sign, and what stands behind it in the line. -/
inductive IsComment : List Char → Prop where
  | mk {text : List Char} (plain : ∀ char ∈ text, isPlain char = true) : IsComment ('#' :: text)

/-- Blanks, ends of lines, and lines with comments. -/
inductive IsGap : List Char → Prop where
  | nil : IsGap []
  | space {char : Char} {text : List Char} (isOne : isSpace char = true) (more : IsGap text) :
      IsGap (char :: text)
  | comment {comment text : List Char} (isComment : IsComment comment) (more : IsGap text) :
      IsGap (comment ++ '\n' :: text)

/-- A name, bare or as a string. -/
inductive IsName : List Char → String → Prop where
  | bare {text : List Char} (filled : text ≠ []) (isBare : ∀ char ∈ text, isBare char = true) :
      IsName text (String.ofList text)
  | string {text content : List Char} (isString : IsString text content) :
      IsName text (String.ofList content)

/-- Names with dots between them. -/
inductive IsKey : List Char → Key → Prop where
  | single {text : List Char} {name : String} (isName : IsName text name) : IsKey text [name]
  | dotted {text blanks blanks' text' : List Char} {name : String} {key : Key}
      (isName : IsName text name) (isBlanks : IsBlanks blanks) (isBlanks' : IsBlanks blanks')
      (more : IsKey text' key) : IsKey (text ++ blanks ++ '.' :: blanks' ++ text') (name :: key)

/-! ### Values -/

/-- A value that contains no others. -/
inductive IsScalar (limit : Option Nat) : List Char → Value → Prop where
  | true : IsScalar limit ['t', 'r', 'u', 'e'] (.bool true)
  | false : IsScalar limit ['f', 'a', 'l', 's', 'e'] (.bool false)
  | number {text : List Char} {value : Value} (isNumber : IsNumber limit text value) :
      IsScalar limit text value
  | moment {text : List Char} (isMoment : IsMoment text) : IsScalar limit text .moment
  | string {text content : List Char} (isString : IsString text content) :
      IsScalar limit text (.string (String.ofList content))
  | longString {text content : List Char} (isLongString : IsLongString text content) :
      IsScalar limit text (.string (String.ofList content))

mutual

/-- A value. A list may go on over several lines, a table stays within one. -/
inductive IsValue (limit : Option Nat) : List Char → Value → Prop
  | scalar {text : List Char} {value : Value} (isScalar : IsScalar limit text value) :
      IsValue limit text value
  | list {gap text : List Char} {members : List Value} (isGap : IsGap gap)
      (isMembers : IsMembers limit text members) :
      IsValue limit ('[' :: gap ++ text ++ [']']) (.list members)
  | empty {blanks : List Char} (isBlanks : IsBlanks blanks) :
      IsValue limit ('\x7b' :: blanks ++ ['\x7d']) (.record [])
  | record {blanks text : List Char} {table : Fields} (isBlanks : IsBlanks blanks)
      (isEntries : IsEntries limit [] [] text table) :
      IsValue limit ('\x7b' :: blanks ++ text ++ ['\x7d']) (.record table)

/-- The members of a list with commas between them. One more comma may stand behind the last. -/
inductive IsMembers (limit : Option Nat) : List Char → List Value → Prop
  | none : IsMembers limit [] []
  | last {text gap : List Char} {value : Value} (isValue : IsValue limit text value)
      (isGap : IsGap gap) : IsMembers limit (text ++ gap) [value]
  | more {text gap gap' text' : List Char} {value : Value} {members : List Value}
      (isValue : IsValue limit text value) (isGap : IsGap gap) (isGap' : IsGap gap')
      (isMembers : IsMembers limit text' members) :
      IsMembers limit (text ++ gap ++ ',' :: gap' ++ text') (value :: members)

/-- The fields of a table with commas between them, from the table in front of them and its closed
keys to the table behind them. -/
inductive IsEntries (limit : Option Nat) : Fields → List Key → List Char → Fields → Prop
  | last {table table' : Fields} {closed : List Key} {text blanks : List Char}
      {key : Key} {value : Value} (isField : IsField limit text key value)
      (added : addInline table closed key value = some table') (isBlanks : IsBlanks blanks) :
      IsEntries limit table closed (text ++ blanks) table'
  | more {table table' table'' : Fields} {closed : List Key}
      {text blanks blanks' text' : List Char} {key : Key} {value : Value}
      (isField : IsField limit text key value)
      (added : addInline table closed key value = some table') (isBlanks : IsBlanks blanks)
      (isBlanks' : IsBlanks blanks')
      (isEntries : IsEntries limit table' (if isContainer value then key :: closed else closed)
        text' table'') :
      IsEntries limit table closed (text ++ blanks ++ ',' :: blanks' ++ text') table''

/-- A key and its value. -/
inductive IsField (limit : Option Nat) : List Char → Key → Value → Prop
  | mk {text blanks blanks' text' : List Char} {key : Key} {value : Value}
      (isKey : IsKey text key) (isBlanks : IsBlanks blanks) (isBlanks' : IsBlanks blanks')
      (isValue : IsValue limit text' value) :
      IsField limit (text ++ blanks ++ '=' :: blanks' ++ text') key value

end

/-! ### Documents -/

/-- What a line says: a field of the section, or the head of the next section. -/
inductive IsStatement (limit : Option Nat) (document : Document) :
    List Char → Document → Prop where
  | field {text : List Char} {key : Key} {value : Value} {document' : Document}
      (isField : IsField limit text key value)
      (added : document.addValue key value = some document') :
      IsStatement limit document text document'
  | table {blanks text blanks' : List Char} {key : Key} {document' : Document}
      (isBlanks : IsBlanks blanks) (isKey : IsKey text key) (isBlanks' : IsBlanks blanks')
      (declared : document.settle.declareTable key = some document') :
      IsStatement limit document ('[' :: blanks ++ text ++ blanks' ++ [']']) document'
  | member {blanks text blanks' : List Char} {key : Key} {document' : Document}
      (isBlanks : IsBlanks blanks) (isKey : IsKey text key) (isBlanks' : IsBlanks blanks')
      (declared : document.settle.declareMember key = some document') :
      IsStatement limit document ('[' :: '[' :: blanks ++ text ++ blanks' ++ [']', ']']) document'

/-- A line. It need not say anything. -/
inductive IsLine (limit : Option Nat) (document : Document) : List Char → Document → Prop where
  | silent {blanks comment : List Char} (isBlanks : IsBlanks blanks)
      (isComment : IsOptional IsComment comment) :
      IsLine limit document (blanks ++ comment) document
  | statement {blanks text blanks' comment : List Char} {document' : Document}
      (isBlanks : IsBlanks blanks) (isStatement : IsStatement limit document text document')
      (isBlanks' : IsBlanks blanks') (isComment : IsOptional IsComment comment) :
      IsLine limit document (blanks ++ text ++ blanks' ++ comment) document'

/-- Lines with line feeds between them. -/
inductive IsLines (limit : Option Nat) : Document → List Char → Document → Prop where
  | last {document document' : Document} {text : List Char}
      (isLine : IsLine limit document text document') : IsLines limit document text document'
  | more {document document' document'' : Document} {text text' : List Char}
      (isLine : IsLine limit document text document')
      (isLines : IsLines limit document' text' document'') :
      IsLines limit document (text ++ '\n' :: text') document''

/-- A text whose lines end with line feeds is a document, within a limit to the digits of integers,
that describes these tables. -/
def Describes (limit : Option Nat) (text : List Char) (tables : Fields) : Prop :=
  ∃ document, IsLines limit {} text document ∧ document.tables = tables

/-- A text whose lines end with line feeds is a document. -/
def IsDocument (text : List Char) : Prop :=
  ∃ tables, Describes none text tables

/-! ### Integers that are too long -/

/-- A number goes on behind its first digits: with more of them, a fraction or an exponent. -/
inductive GoesOn : List Char → Prop where
  | digits {text digits rest : List Char} (run : IsRun Char.isDigit text digits) :
      GoesOn (text ++ rest)
  | spaced {text digits rest : List Char} (run : IsRun Char.isDigit text digits) :
      GoesOn ('_' :: text ++ rest)
  | fraction {text digits rest : List Char} (isFraction : IsFraction text digits) :
      GoesOn (text ++ rest)
  | exponent {text rest : List Char} {place : Int} (isExponent : IsExponent text place) :
      GoesOn (text ++ rest)

/-- A text begins with an integer in decimal that has so many digits, more than are read. -/
inductive OverlongNumber (count : Nat) : List Char → Prop where
  | mk {sign whole digits rest : List Char} {negative : Bool} (isSign : IsSign sign negative)
      (isWhole : IsWhole whole digits) (length : digits.length = count)
      (long : Decimal.longest < count) (complete : ¬GoesOn rest) :
      OverlongNumber count (sign ++ whole ++ rest)

mutual

/-- A text begins with a value up to an integer that is too long. In front of it everything is as it
has to be, and what stands behind it does not matter. -/
inductive OverlongValue (count : Nat) : List Char → Prop
  | number {text : List Char} (overlong : OverlongNumber count text) : OverlongValue count text
  | list {gap text : List Char} (isGap : IsGap gap) (overlong : OverlongMembers count text) :
      OverlongValue count ('[' :: gap ++ text)
  | record {blanks text : List Char} (isBlanks : IsBlanks blanks)
      (overlong : OverlongEntries count [] [] text) : OverlongValue count ('\x7b' :: blanks ++ text)

/-- A text begins with members of a list up to an integer that is too long. -/
inductive OverlongMembers (count : Nat) : List Char → Prop
  | value {text : List Char} (overlong : OverlongValue count text) : OverlongMembers count text
  | more {text gap gap' text' : List Char} {value : Value} (isValue : IsValue readLimit text value)
      (isGap : IsGap gap) (isGap' : IsGap gap') (overlong : OverlongMembers count text') :
      OverlongMembers count (text ++ gap ++ ',' :: gap' ++ text')

/-- A text begins with fields of a table up to an integer that is too long. -/
inductive OverlongEntries (count : Nat) : Fields → List Key → List Char → Prop
  | field {table : Fields} {closed : List Key} {text : List Char}
      (overlong : OverlongField count text) : OverlongEntries count table closed text
  | more {table table' : Fields} {closed : List Key} {text blanks blanks' text' : List Char}
      {key : Key} {value : Value} (isField : IsField readLimit text key value)
      (added : addInline table closed key value = some table') (isBlanks : IsBlanks blanks)
      (isBlanks' : IsBlanks blanks')
      (overlong : OverlongEntries count table' (if isContainer value then key :: closed else closed)
        text') :
      OverlongEntries count table closed (text ++ blanks ++ ',' :: blanks' ++ text')

/-- A text begins with a key and a value up to an integer that is too long. -/
inductive OverlongField (count : Nat) : List Char → Prop
  | mk {text blanks blanks' text' : List Char} {key : Key} (isKey : IsKey text key)
      (isBlanks : IsBlanks blanks) (isBlanks' : IsBlanks blanks')
      (overlong : OverlongValue count text') :
      OverlongField count (text ++ blanks ++ '=' :: blanks' ++ text')

end

/-- A text begins with lines up to an integer that is too long. -/
inductive OverlongLines (count : Nat) : Document → List Char → Prop where
  | field {document : Document} {blanks text : List Char} (isBlanks : IsBlanks blanks)
      (overlong : OverlongField count text) : OverlongLines count document (blanks ++ text)
  | more {document document' : Document} {text text' : List Char}
      (isLine : IsLine readLimit document text document')
      (overlong : OverlongLines count document' text') :
      OverlongLines count document (text ++ '\n' :: text')

/-- A text whose lines end with line feeds comes to an integer that has so many digits, more than
are read, before it comes to anything wrong. -/
def IsOverlong (count : Nat) (text : List Char) : Prop :=
  OverlongLines count {} text

/-! ### Files -/

/-- A text in which every line that ends with a carriage return and a line feed ends with the line
feed alone. -/
def unifyBreaks : List Char → List Char
  | '\r' :: '\n' :: rest => '\n' :: unifyBreaks rest
  | char :: rest => char :: unifyBreaks rest
  | [] => []

/-- The content of a configuration file: a document, as UTF-8. -/
def IsFile (content : List UInt8) : Prop :=
  ∃ text, content = Utf8.encode text ∧ IsDocument (unifyBreaks text)

end Toml

end PolyIntake
