-- Markup as a list of marks: tags that open, stand alone or close, each on lines of its own. Values
-- of attributes are escaped where they are written, so no value can end its attribute.
import ApkForge.Text.Split

namespace ApkForge

/-- A tag: its name and its attributes in rows. The first row stands beside the name; each further
row stands on a line of its own, `hang` columns further in than the tag. A roomy tag has a blank
before its closing bracket. -/
structure Tag where
  name : String
  rows : List (List (String × String)) := []
  hang : Nat := 2
  roomy : Bool := true
deriving DecidableEq, Repr

namespace Tag

/-- A tag with all attributes beside its name. -/
def inline (name : String) (attrs : List (String × String)) : Tag := { name, rows := [attrs] }

/-- A tag with each attribute on a line of its own. -/
def stacked (name : String) (attrs : List (String × String)) : Tag :=
  { name, rows := [] :: attrs.map fun a => [a] }

/-- The tag without a blank before its closing bracket. -/
def tight (t : Tag) : Tag := { t with roomy := false }

/-- All attributes, in order. -/
def attrs (t : Tag) : List (String × String) := t.rows.flatten

end Tag

/-- A mark of a document, with its indentation. Verbatim text is markup already. -/
inductive Mark where
  | opens (indent : Nat) (tag : Tag)
  | stands (indent : Nat) (tag : Tag)
  | closes (indent : Nat) (name : String)
  | verbatim (text : String)
deriving DecidableEq, Repr

namespace Mark

/-- A character as it is written in the value of an attribute. -/
def escapeChar : Char → List Char
  | '&' => ['&', 'a', 'm', 'p', ';']
  | '<' => ['&', 'l', 't', ';']
  | '>' => ['&', 'g', 't', ';']
  | '\x22' => ['&', 'q', 'u', 'o', 't', ';']
  | '\x27' => ['&', 'a', 'p', 'o', 's', ';']
  | c => [c]

/-- A text as it is written in the value of an attribute. -/
def escape (s : String) : String := String.ofList (s.toList.flatMap escapeChar)

/-- So many blanks. -/
def blanks (n : Nat) : String := String.ofList (List.replicate n ' ')

/-- An attribute with its value. -/
def writeAttr (a : String × String) : String := a.1 ++ "=\"" ++ escape a.2 ++ "\""

/-- A row of attributes beside the name of the tag. -/
def writeBeside (row : List (String × String)) : String :=
  String.join (row.map fun a => " " ++ writeAttr a)

/-- A row of attributes on a line of its own. -/
def writeBelow (indent : Nat) (row : List (String × String)) : String :=
  "\n" ++ blanks indent ++ Text.join " " (row.map writeAttr)

/-- All rows of attributes. -/
def writeRows (indent : Nat) : List (List (String × String)) → String
  | [] => ""
  | row :: rest => writeBeside row ++ String.join (rest.map (writeBelow indent))

/-- A tag without its closing bracket. -/
def writeHead (indent : Nat) (tag : Tag) : String :=
  blanks indent ++ "<" ++ tag.name ++ writeRows (indent + tag.hang) tag.rows

/-- A mark with the end of its line. -/
def write : Mark → String
  | opens indent tag => writeHead indent tag ++ (if tag.roomy then " >\n" else ">\n")
  | stands indent tag => writeHead indent tag ++ " />\n"
  | closes indent name => blanks indent ++ "</" ++ name ++ ">\n"
  | verbatim text => if Text.endsWith "\n" text then text else text ++ "\n"

/-- The line that a document begins with. -/
def declaration : String := "<?xml version=\"1.0\" encoding=\"utf-8\"?>\n"

/-- A document of marks. -/
def document (marks : List Mark) : String := declaration ++ String.join (marks.map write)

/-- The name space of the attributes that Android defines. -/
def androidSpace : String × String :=
  ("xmlns:android", "http://schemas.android.com/apk/res/android")

end Mark

end ApkForge
