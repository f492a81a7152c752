import Highlight.Token.Scan

/-!
Lines of SQL. Reserved words are keywords in any case; every other name is text.
-/

set_option autoImplicit false

namespace Highlight.Grammar.Query

open Text

def reserved : List String :=
  ["ADD", "ALL", "ALTER", "AND", "ANY", "AS", "ASC", "AVG", "BEGIN", "BETWEEN", "BIGINT",
    "BOOLEAN", "BY", "CASCADE", "CASE", "CAST", "CHAR", "CHECK", "COALESCE", "COLUMN", "COMMIT",
    "CONSTRAINT", "COUNT", "CREATE", "CROSS", "DATABASE", "DATE", "DECIMAL", "DEFAULT", "DELETE",
    "DESC", "DISTINCT", "DROP", "ELSE", "END", "EXCEPT", "EXISTS", "FALSE", "FETCH", "FOREIGN",
    "FROM", "FULL", "GRANT", "GROUP", "HAVING", "IF", "ILIKE", "IN", "INDEX", "INNER", "INSERT",
    "INT", "INTEGER", "INTERSECT", "INTO", "IS", "JOIN", "KEY", "LEFT", "LIKE", "LIMIT", "MAX",
    "MIN", "NOT", "NULL", "OFFSET", "ON", "OR", "ORDER", "OUTER", "OVER", "PARTITION", "PRIMARY",
    "REFERENCES", "RETURNING", "REVOKE", "RIGHT", "ROLLBACK", "SELECT", "SET", "SUM", "TABLE",
    "TEXT", "THEN", "TIMESTAMP", "TOP", "TRANSACTION", "TRUE", "TRUNCATE", "UNION", "UNIQUE",
    "UPDATE", "USING", "VALUES", "VARCHAR", "VIEW", "WHEN", "WHERE", "WITH"]

def wordKind? (word : List Char) : Option TokenKind :=
  if reserved.contains (String.ofList (word.map Char.toUpper)) then some .keyword else none

def comment : Lexeme :=
  (.literal "--" ++ .restOfLine) <|> .blockComment "/*" "*/"

/-- Digits with an optional fraction, where the fraction counts only when no word character follows
it. -/
def number : Lexeme :=
  (.run isDecimal ++ .char '.' ++ .run isDecimal ++ .wordEnd) <|> (.run isDecimal ++ .wordEnd)

def word : Lexeme :=
  .one (fun c => c.isAlpha || c == '_') ++ .many (fun c => isWord c || c == '$')

def operator : Lexeme :=
  .anyOf ["<>", "<=", ">=", "!=", "||", "::"] <|> .oneOf ['=', '<', '>', '+', '-', '*', '/', '%']

def rules : List Rule :=
  [.token .comment comment,
    .token .string (.doubledQuote '\''),
    .atWordStart (.token .number number),
    .classified wordKind? word,
    .token .operator operator,
    .token .bracket (.oneOf ['(', ')']),
    .token .punctuation (.oneOf [',', ';', '.'])]

def spans (line : List Char) : List Span :=
  scanRules rules (.start line)

end Highlight.Grammar.Query
