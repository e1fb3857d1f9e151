import FieldSearch.Text.Split

/-!
# Identifiers

A plain identifier is an ASCII letter or underscore followed by ASCII letters, digits and
underscores. In a statement a name is written between double quotes, a quote inside it twice.

## Main results

* `isIdentifierList_cons`: an identifier is a first character and a rest, each of its own class.
-/

namespace FieldSearch.Text

/-- The characters with which an identifier may begin. -/
def isIdentifierStart (c : Char) : Bool := c.isAlpha || c = '_'

/-- The characters with which an identifier may go on. -/
def isIdentifierPart (c : Char) : Bool := c.isAlphanum || c = '_'

/-- Whether a list of characters is a plain identifier. -/
def isIdentifierList : List Char → Bool
  | [] => false
  | c :: rest => isIdentifierStart c && rest.all isIdentifierPart

/-- Whether a text is a plain identifier. -/
def isIdentifier (text : String) : Bool := isIdentifierList text.toList

theorem isIdentifierList_cons {c : Char} {rest : List Char} :
    isIdentifierList (c :: rest) = true ↔
      isIdentifierStart c = true ∧ ∀ d ∈ rest, isIdentifierPart d = true := by
  simp [isIdentifierList]

/-- Whether a text is a plain identifier, or two of them joined by a dot. -/
def isQualifiedIdentifier (text : String) : Bool :=
  match splitOnce '.' text.toList with
  | none => isIdentifierList text.toList
  | some (left, right) => isIdentifierList left && isIdentifierList right

/-- Characters with every double quote written twice. -/
def doubleQuotes : List Char → List Char
  | [] => []
  | c :: rest => if c = '"' then '"' :: '"' :: doubleQuotes rest else c :: doubleQuotes rest

/-- A name between double quotes, as statements write it. -/
def quoteIdentifier (name : String) : String :=
  String.ofList ('"' :: doubleQuotes name.toList ++ ['"'])

end FieldSearch.Text
