import SheetQuery.Text.Case
import SheetQuery.Text.Trim

/-!
# Normal form of queries

Queries that differ in case and blanks only are taken for the same.
-/

namespace SheetQuery.Query

/-- A query in lower case, without outer blanks and with one space for each inner run of blanks. -/
def normal (text : List Char) : List Char :=
  [' '].intercalate (Text.words (Text.lower (Text.trim text)))

/-- `normal` on strings. -/
def normalText (text : String) : String := String.ofList (normal text.toList)

end SheetQuery.Query
