namespace SchemaPlan.Ruby

def escapeAll (c : Char) (s : List Char) : List Char :=
  s.flatMap fun d => if d = c then ['\\', d] else [d]

/-- Backslashes come first, or those that the quotation marks get would be escaped, too. -/
def escapeLiteral (value : List Char) : List Char := escapeAll '\'' (escapeAll '\\' value)

def literal (value : List Char) : List Char := '\'' :: escapeLiteral value ++ ['\'']

end SchemaPlan.Ruby
