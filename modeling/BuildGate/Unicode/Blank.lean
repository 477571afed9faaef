import BuildGate.Charset

/-!
# White space

The twenty-five characters with Unicode's `White_Space` property. Rules, patterns, blank values of
variables and trimmed text all mean these by a blank.

**Results.**
* `mem_compl_blanks`: what is no blank is in the complement of the blanks.
-/
namespace BuildGate.Unicode

/-- The characters with the property `White_Space`. -/
def blanks : Charset :=
  ⟨[(0x9, 0xD), (0x20, 0x20), (0x85, 0x85), (0xA0, 0xA0), (0x1680, 0x1680), (0x2000, 0x200A),
    (0x2028, 0x2029), (0x202F, 0x202F), (0x205F, 0x205F), (0x3000, 0x3000)]⟩

def isBlank (c : Char) : Bool := blanks.mem c

theorem mem_compl_blanks (c : Char) : blanks.compl.mem c = !isBlank c :=
  Charset.mem_compl (by simp [blanks, Charset.Ascending]) c

/-- What the text holds between its first and its last character that is no blank. -/
def trim (s : String) : String :=
  String.ofList (((s.toList.dropWhile isBlank).reverse.dropWhile isBlank).reverse)

end BuildGate.Unicode
