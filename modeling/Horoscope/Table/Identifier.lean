import Horoscope.Text.Basic

set_option autoImplicit false

namespace Horoscope.Table

def reservedWords : List String :=
  ["ADD", "ALL", "ALTER", "AND", "AS", "AUTOINCREMENT", "BETWEEN", "CASE", "CHECK", "COLLATE",
   "COMMIT", "CONSTRAINT", "CREATE", "DEFAULT", "DEFERRABLE", "DELETE", "DISTINCT", "DROP", "ELSE",
   "ESCAPE", "EXCEPT", "EXISTS", "FOREIGN", "FROM", "GROUP", "HAVING", "IN", "INDEX", "INSERT",
   "INTERSECT", "INTO", "IS", "ISNULL", "JOIN", "LIMIT", "NOT", "NOTHING", "NOTNULL", "NULL", "ON",
   "OR", "ORDER", "PRIMARY", "REFERENCES", "RETURNING", "SELECT", "SET", "TABLE", "THEN", "TO",
   "TRANSACTION", "UNION", "UNIQUE", "UPDATE", "USING", "VALUES", "WHEN", "WHERE"]

def isReserved (name : Text) : Bool := reservedWords.any fun word => Text.sameLetters word.toList name

def isPlainName (name : Text) : Bool :=
  !name.isEmpty && name.all fun c => c.isAlphanum || c == '_'

def isIdentifier (name : Text) : Bool := !name.head?.any Char.isDigit && !isReserved name

end Horoscope.Table
