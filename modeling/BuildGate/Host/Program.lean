import BuildGate.FileTree

/-!
# Programs of the host

Small programs that stand on every host: what they write and how they end, as a function of their
arguments, of what they read and of the file tree. None of them changes the tree.
-/
namespace BuildGate.Host

/-- What a program reads: a text, or something that cannot be read. -/
abbrev Input := Except IoFault String

/-- What a program writes, and its status. -/
structure Written where
  out : String := ""
  err : String := ""
  status : Nat := 0
  deriving Repr, DecidableEq

/-- The text of bytes; what is no UTF-8 gives signs of replacement. -/
def textOf (bytes : ByteArray) : String :=
  (String.fromUTF8? bytes).getD
    (String.ofList (bytes.toList.map fun b =>
      if b.toNat < 0x80 then Char.ofNat b.toNat else '\uFFFD'))

/-! ## Printing arguments -/

/-- How arguments are printed. -/
structure EchoStyle where
  newLine : Bool := true
  escapes : Bool := false
  deriving Repr, DecidableEq

/-- Takes the options from the front of arguments; the first word that is none ends them. -/
def echoOptions (s : EchoStyle) : List String → EchoStyle × List String
  | [] => (s, [])
  | a :: rest =>
    match a.toList with
    | '-' :: c :: cs =>
      if (c :: cs).all fun c => c == 'n' || c == 'e' || c == 'E' then
        echoOptions
          ((c :: cs).foldl
            (fun s c =>
              if c = 'n' then { s with newLine := false } else { s with escapes := c == 'e' })
            s)
          rest
      else (s, a :: rest)
    | _ => (s, a :: rest)

/-- The characters that escapes stand for; one of them ends the text, which `false` shows. -/
def unescape : List Char → List Char × Bool
  | '\\' :: c :: rest =>
    let put (cs : List Char) := let (r, b) := unescape rest; (cs ++ r, b)
    match c with
    | 'n' => put ['\n']
    | 't' => put ['\t']
    | 'r' => put ['\r']
    | 'a' => put ['\x07']
    | 'b' => put ['\x08']
    | 'f' => put ['\x0c']
    | 'v' => put ['\x0b']
    | '\\' => put ['\\']
    | 'c' => ([], false)
    | c => put ['\\', c]
  | c :: rest => let (r, b) := unescape rest; (c :: r, b)
  | [] => ([], true)

/-- Prints arguments with blanks between them. -/
def echo (s : EchoStyle) (args : List String) : Written :=
  let line := " ".intercalate args
  let (text, goesOn) := if s.escapes then unescape line.toList else (line.toList, true)
  { out := String.ofList text ++ if s.newLine && goesOn then "\n" else "" }

/-! ## Joining files -/

/-- The cause without the number of the operating system. -/
def plainCause (f : IoFault) : String := String.ofList (f.message.toList.takeWhile (· != '(')) |>.trimAsciiEnd.toString

/-- Writes one file after the other, or what is read where none is named. -/
def cat (t : FileTree) (input : Input) (args : List String) : Written :=
  let options := args.takeWhile (· ≠ "--") |>.filter fun a => a.length > 1 && a.startsWith "-"
  match options.find? (· ≠ "-u") with
  | some a =>
    let words :=
      if a.startsWith "--" then "unrecognized option '" ++ a ++ "'"
      else "invalid option -- '" ++ String.ofList ((a.toList.drop 1).filter (· != 'u') |>.take 1) ++ "'"
    { err := "cat: " ++ words ++ "\nTry 'cat --help' for more information.\n", status := 1 }
  | none =>
    let files := (args.takeWhile (· ≠ "--")).filter (· ≠ "-u") ++ (args.dropWhile (· ≠ "--")).drop 1
    (if files.isEmpty then ["-"] else files).foldl
      (fun w file =>
        match if file = "-" then input else (t.readFile file).map textOf with
        | .ok text => { w with out := w.out ++ text }
        | .error cause =>
          { w with err := w.err ++ "cat: " ++ file ++ ": " ++ plainCause cause ++ "\n", status := 1 })
      {}

end BuildGate.Host
