/-!
# Tokens

The vocabulary of the language: nine keywords, identifiers, constants, twelve symbols, and
the two marks for the end of a line and of the source. Every kind of token has a number and a
name, which the record files and the services use, and a token keeps the text that it was
written with.
-/

namespace PascalScan

/-- The reserved words. -/
inductive Keyword where
  | beginWord
  | endWord
  | integerWord
  | ifWord
  | thenWord
  | elseWord
  | functionWord
  | readWord
  | writeWord
  deriving DecidableEq, Repr

namespace Keyword

def all : List Keyword :=
  [beginWord, endWord, integerWord, ifWord, thenWord, elseWord, functionWord, readWord, writeWord]

/-- The spelling in lower case; any mixture of cases stands for the same keyword. -/
def word : Keyword → String
  | beginWord => "begin"
  | endWord => "end"
  | integerWord => "integer"
  | ifWord => "if"
  | thenWord => "then"
  | elseWord => "else"
  | functionWord => "function"
  | readWord => "read"
  | writeWord => "write"

/-- The keyword that a word spells, whatever its case. -/
def ofWord? (letters : List Char) : Option Keyword :=
  all.find? fun k => k.word.toList == letters.map Char.toLower

end Keyword

/-- The operators and punctuation. -/
inductive Symbol where
  | equal
  | notEqual
  | lessOrEqual
  | less
  | greaterOrEqual
  | greater
  | minus
  | times
  | assign
  | leftParenthesis
  | rightParenthesis
  | semicolon
  deriving DecidableEq, Repr

namespace Symbol

def all : List Symbol :=
  [equal, notEqual, lessOrEqual, less, greaterOrEqual, greater, minus, times, assign,
    leftParenthesis, rightParenthesis, semicolon]

def spelling : Symbol → String
  | equal => "="
  | notEqual => "<>"
  | lessOrEqual => "<="
  | less => "<"
  | greaterOrEqual => ">="
  | greater => ">"
  | minus => "-"
  | times => "*"
  | assign => ":="
  | leftParenthesis => "("
  | rightParenthesis => ")"
  | semicolon => ";"

/-- The symbol that one character spells. -/
def ofChar? (c : Char) : Option Symbol :=
  all.find? fun s => s.spelling.toList == [c]

/-- The symbol that two adjacent characters spell. -/
def ofPair? (c d : Char) : Option Symbol :=
  all.find? fun s => s.spelling.toList == [c, d]

/-- The symbols that no longer symbol starts with: one character settles them. -/
def settled : List Symbol :=
  [equal, minus, times, leftParenthesis, rightParenthesis, semicolon]

end Symbol

/-- The kinds of token, in the order of their numbers. -/
inductive TokenKind where
  | keyword (k : Keyword)
  | identifier
  | constant
  | symbol (s : Symbol)
  | endOfLine
  | endOfFile
  deriving DecidableEq, Repr

namespace TokenKind

def all : List TokenKind :=
  Keyword.all.map keyword ++ [identifier, constant] ++ Symbol.all.map symbol ++
    [endOfLine, endOfFile]

/-- The number of a kind; the numbers run from 1 to 25 without a gap. -/
def code : TokenKind → Nat
  | keyword .beginWord => 1
  | keyword .endWord => 2
  | keyword .integerWord => 3
  | keyword .ifWord => 4
  | keyword .thenWord => 5
  | keyword .elseWord => 6
  | keyword .functionWord => 7
  | keyword .readWord => 8
  | keyword .writeWord => 9
  | identifier => 10
  | constant => 11
  | symbol .equal => 12
  | symbol .notEqual => 13
  | symbol .lessOrEqual => 14
  | symbol .less => 15
  | symbol .greaterOrEqual => 16
  | symbol .greater => 17
  | symbol .minus => 18
  | symbol .times => 19
  | symbol .assign => 20
  | symbol .leftParenthesis => 21
  | symbol .rightParenthesis => 22
  | symbol .semicolon => 23
  | endOfLine => 24
  | endOfFile => 25

def name : TokenKind → String
  | keyword .beginWord => "BEGIN"
  | keyword .endWord => "END"
  | keyword .integerWord => "INTEGER"
  | keyword .ifWord => "IF"
  | keyword .thenWord => "THEN"
  | keyword .elseWord => "ELSE"
  | keyword .functionWord => "FUNCTION"
  | keyword .readWord => "READ"
  | keyword .writeWord => "WRITE"
  | identifier => "IDENTIFIER"
  | constant => "CONSTANT"
  | symbol .equal => "EQUAL"
  | symbol .notEqual => "NOT_EQUAL"
  | symbol .lessOrEqual => "LESS_THAN_OR_EQUAL"
  | symbol .less => "LESS_THAN"
  | symbol .greaterOrEqual => "GREATER_THAN_OR_EQUAL"
  | symbol .greater => "GREATER_THAN"
  | symbol .minus => "SUBTRACT"
  | symbol .times => "MULTIPLY"
  | symbol .assign => "ASSIGN"
  | symbol .leftParenthesis => "LEFT_PARENTHESES"
  | symbol .rightParenthesis => "RIGHT_PARENTHESES"
  | symbol .semicolon => "SEMICOLON"
  | endOfLine => "END_OF_LINE"
  | endOfFile => "END_OF_FILE"

def ofCode? (n : Int) : Option TokenKind :=
  all.find? fun k => (k.code : Int) == n

def ofName? (s : String) : Option TokenKind :=
  all.find? fun k => k.name == s

example : all.map code = (List.range 25).map (· + 1) := by decide

theorem ofCode?_code (k : TokenKind) : ofCode? k.code = some k := by
  cases k with
  | keyword w => cases w <;> decide
  | symbol s => cases s <;> decide
  | identifier => decide
  | constant => decide
  | endOfLine => decide
  | endOfFile => decide

end TokenKind

/-- A token: its kind and the text that stands for it in the records. -/
structure Token where
  kind : TokenKind
  value : String
  deriving DecidableEq, Repr

namespace Token

/-- The mark that follows the last token of a source. -/
def endOfFile : Token := ⟨.endOfFile, "EOF"⟩

end Token

end PascalScan
