import BuildGate.Charset
import BuildGate.Unicode.Blank
import BuildGate.Unicode.CategoryTable
import BuildGate.Unicode.PropertyTable
import BuildGate.Unicode.CaseFold

/-!
# General categories and binary properties

The code points of a category or of a binary property, by the long name of the property and the
short name of the category. Properties that Unicode defines from others are computed here by that
definition. All tables are those of Unicode 17.
-/
namespace BuildGate.Unicode

/-- The set that a table gives for a name; empty for a name it does not list. -/
def tableSet (table : List (String × String)) (name : String) : Charset :=
  .ofTable ((table.lookup name).getD "")

/-- The assigned code points. -/
def assigned : Charset := .unions (categoryTable.map fun e => .ofTable e.2)

/-- The categories that a short name stands for, itself or those of a group. -/
def categoryMembers (short : String) : List String :=
  match short with
  | "LC" => ["Lu", "Ll", "Lt"]
  | "L" => ["Lu", "Ll", "Lt", "Lm", "Lo"]
  | "M" => ["Mn", "Mc", "Me"]
  | "N" => ["Nd", "Nl", "No"]
  | "P" => ["Pc", "Pd", "Ps", "Pe", "Pi", "Pf", "Po"]
  | "S" => ["Sm", "Sc", "Sk", "So"]
  | "Z" => ["Zs", "Zl", "Zp"]
  | "C" => ["Cc", "Cf", "Cn", "Co"]
  | other => [other]

/-- The code points of a general category or of a group of them. -/
def category (short : String) : Charset :=
  .unions ((categoryMembers short).map fun name =>
    if name = "Cn" then assigned.compl else tableSet categoryTable name)

/-- Several categories together. -/
def categories (shorts : List String) : Charset := .unions (shorts.map category)

def lowercase : Charset := (category "Ll").union (tableSet propertyTable "Other_Lowercase")

def uppercase : Charset := (category "Lu").union (tableSet propertyTable "Other_Uppercase")

def alphabetic : Charset :=
  .unions [lowercase, uppercase, categories ["Lt", "Lm", "Lo", "Nl"],
    tableSet propertyTable "Other_Alphabetic"]

/-- Letters and letter numbers, without what the notation of patterns takes for itself. -/
def idStart : Charset :=
  ((categories ["L", "Nl"]).union (tableSet propertyTable "Other_ID_Start")).diff
    ((tableSet propertyTable "Pattern_Syntax").union
      (tableSet propertyTable "Pattern_White_Space"))

def idContinue : Charset :=
  .unions [idStart, categories ["Mn", "Mc", "Nd", "Pc"],
    tableSet propertyTable "Other_ID_Continue"]

def graphemeExtend : Charset :=
  (categories ["Me", "Mn"]).union (tableSet propertyTable "Other_Grapheme_Extend")

/-- The characters with some case mapping in the folding classes. -/
def folding : Charset := .ofRanges (foldClasses.flatten.map fun n => (n, n))

def changesWhenCasefolded : Charset :=
  ((uppercase.union (category "Lt")).inter folding).symmDiff
    (tableSet exceptionTable "Changes_When_Casefolded")

/-- The code points with a binary property, by its long name; none for a property that is not
binary. -/
def property (name : String) : Option Charset :=
  match name with
  | "White_Space" => some blanks
  | "Lowercase" => some lowercase
  | "Uppercase" => some uppercase
  | "Alphabetic" => some alphabetic
  | "Math" => some ((category "Sm").union (tableSet propertyTable "Other_Math"))
  | "Cased" => some (.unions [lowercase, uppercase, category "Lt"])
  | "Case_Ignorable" =>
    some ((categories ["Mn", "Me", "Cf", "Lm", "Sk"]).union
      (tableSet exceptionTable "Case_Ignorable"))
  | "Changes_When_Lowercased" =>
    some (((uppercase.union (category "Lt")).inter folding).union
      (tableSet exceptionTable "Changes_When_Lowercased"))
  | "Changes_When_Uppercased" =>
    some (((lowercase.union (category "Lt")).inter folding).union
      (tableSet exceptionTable "Changes_When_Uppercased"))
  | "Changes_When_Titlecased" =>
    some ((lowercase.inter folding).symmDiff (tableSet exceptionTable "Changes_When_Titlecased"))
  | "Changes_When_Casemapped" =>
    some (folding.union (tableSet exceptionTable "Changes_When_Casemapped"))
  | "Changes_When_Casefolded" => some changesWhenCasefolded
  | "ID_Start" => some idStart
  | "ID_Continue" => some idContinue
  | "XID_Start" => some (idStart.diff (tableSet exceptionTable "XID_Start"))
  | "XID_Continue" => some (idContinue.diff (tableSet exceptionTable "XID_Continue"))
  | "Grapheme_Extend" => some graphemeExtend
  | "Grapheme_Base" =>
    some ((categories ["Cc", "Cf", "Co", "Cn", "Zl", "Zp"]).union graphemeExtend).compl
  | other => (propertyTable.lookup other).map .ofTable

/-- Letters, marks, decimal digits, connectors and joiners: what a word is made of. -/
def wordChars : Charset :=
  .unions [alphabetic, categories ["M", "Nd", "Pc"], tableSet propertyTable "Join_Control"]

def decimalDigits : Charset := category "Nd"

def isAlphabetic (c : Char) : Bool := alphabetic.mem c

/-- Whether a character is a number of any kind. -/
def isNumeric (c : Char) : Bool := (category "N").mem c

end BuildGate.Unicode
