import SpaServer.Text.Blank

/-!
# The statements of an environment file

An environment file is read statement by statement. A statement is usually a line `KEY=value`, but
white space before it is skipped over any number of lines and quoted keys and values may contain
line feeds. A malformed statement ends with the line in which the reader gave up, so it never takes
more of the text with it. All line ends are line feeds here.

`Statement.next` reads one statement and gives the text that is left.
-/

namespace SpaServer.EnvFile

/-- What a statement turned out to be. A comment line has no key; whatever value it may seem to have
is dropped with it. -/
inductive Statement
  | binding (key : Text) (value : Option Text)
  | comment
  | malformed
  deriving DecidableEq

/-- Blank, but within the line. -/
def isLineBlank (c : Char) : Bool := Text.isBlank c && c != '\n'

/-- The text after the blanks that stay within the line. -/
def skipBlanks (text : Text) : Text := text.dropWhile isLineBlank

def skipLine (text : Text) : Text := (text.dropWhile (· != '\n')).drop 1

/-- The text after the word `export`, if the word is set apart by blanks. -/
def skipExport (text : Text) : Text :=
  if "export".toList.isPrefixOf text then
    match text.drop 6 with
    | c :: rest => if isLineBlank c then skipBlanks rest else text
    | [] => text
  else text

/-- The text after a comment, whose line feed is left. -/
def skipComment (text : Text) : Text :=
  match skipBlanks text with
  | '#' :: rest => rest.dropWhile (· != '\n')
  | _ => text

/-- The text after the line feed that must follow, or nothing at the end of the text. -/
def skipLineEnd? (text : Text) : Option Text :=
  match skipBlanks text with
  | [] => some []
  | '\n' :: rest => some rest
  | _ => none

/-! ### Keys -/

def isKeyChar (c : Char) : Bool := c != '=' && c != '#' && !Text.isBlank c

/-- A key and the text after it. A comment sign stands for a missing key and is left in place. -/
def key? (text : Text) : Option (Option Text × Text) :=
  match text with
  | '#' :: _ => some (none, text)
  | '\'' :: rest =>
    match rest.takeWhile (· != '\''), rest.dropWhile (· != '\'') with
    | c :: name, _ :: after => some (some (c :: name), after)
    | _, _ => none
  | _ =>
    match text.takeWhile isKeyChar with
    | [] => none
    | name => some (some name, text.dropWhile isKeyChar)

/-! ### Values -/

/-- The character that an escape stands for between single quotes. -/
def singleEscape? (c : Char) : Option Char :=
  if c = '\\' ∨ c = '\'' then some c else none

/-- The character that an escape stands for between double quotes. -/
def doubleEscape? : Char → Option Char
  | '\\' => some '\\'
  | '\'' => some '\''
  | '"' => some '"'
  | 'a' => some '\x07'
  | 'b' => some '\x08'
  | 'f' => some '\x0c'
  | 'n' => some '\n'
  | 'r' => some '\r'
  | 't' => some '\t'
  | 'v' => some '\x0b'
  | _ => none

/-- The text up to the closing quote, its escapes resolved, and the text after that quote. A
backslash always takes the next character with it, but unless the two are an escape both stay. -/
def quoted? (quote : Char) (escape? : Char → Option Char) : Text → Option (Text × Text)
  | [] => none
  | ['\\'] => none
  | '\\' :: c :: rest =>
    match quoted? quote escape? rest with
    | none => none
    | some (value, after) =>
      match escape? c with
      | some meant => some (meant :: value, after)
      | none => some ('\\' :: c :: value, after)
  | c :: rest =>
    if c = quote then some ([], rest)
    else
      match quoted? quote escape? rest with
      | none => none
      | some (value, after) => some (c :: value, after)

/-- The line up to a comment sign that follows a blank. -/
def beforeComment (afterBlank : Bool) : Text → Text
  | [] => []
  | c :: rest =>
    if afterBlank && c == '#' then [] else c :: beforeComment (Text.isBlank c) rest

def plainValue (line : Text) : Text :=
  Text.trimEnd Text.isBlank (beforeComment false line)

/-- The value that starts right here, and the text after it; or the place of a quote that is never
closed. A comment may start here only after a blank. -/
def valueAt? (afterBlank : Bool) (text : Text) : Except Text (Text × Text) :=
  match text with
  | [] => .ok ([], text)
  | '\n' :: _ => .ok ([], text)
  | '\'' :: rest => (quoted? '\'' singleEscape? rest).elim (.error text) .ok
  | '"' :: rest => (quoted? '"' doubleEscape? rest).elim (.error text) .ok
  | c :: _ =>
    if c == '#' && afterBlank then .ok ([], text)
    else .ok (plainValue (text.takeWhile (· != '\n')), text.dropWhile (· != '\n'))

def value? (text : Text) : Except Text (Text × Text) :=
  valueAt? (text.head?.any isLineBlank) (skipBlanks text)

/-! ### Statements -/

/-- The value that follows a key, if an equals sign does, and the text after it. -/
def assigned? (text : Text) : Except Text (Option Text × Text) :=
  match skipBlanks text with
  | '=' :: rest =>
    match value? rest with
    | .ok (value, after) => .ok (some value, after)
    | .error start => .error start
  | start => .ok (none, start)

/-- Reads one statement: what it is, and the text after it. -/
def Statement.next (text : Text) : Statement × Text :=
  let start := skipExport text
  match key? start with
  | none => (.malformed, skipLine start)
  | some (key, afterKey) =>
    match assigned? afterKey with
    | .error stop => (.malformed, skipLine stop)
    | .ok (value, afterValue) =>
      let stop := skipComment afterValue
      match skipLineEnd? stop with
      | none => (.malformed, skipLine stop)
      | some rest => (key.elim .comment fun name => .binding name value, rest)

end SpaServer.EnvFile
