import BuildGate.Unicode.Blank

/-!
# Viewers

The program that opens a report: the one that the user chose, or the opener of the platform.
-/
namespace BuildGate

/-- The program that opens files on a platform, unless the user chose one that is not blank. -/
def viewerFor (chosen : Option String) (platform : String) : Option String :=
  match chosen.filter fun program => Unicode.trim program ≠ "" with
  | some program => some program
  | none =>
    if platform = "linux" then some "xdg-open"
    else if platform = "macos" then some "open"
    else if platform = "windows" then some "explorer.exe"
    else none

end BuildGate
