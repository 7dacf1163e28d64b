/-
  The result of a build: the words of a module, and the files that it was built from.

  * `BuildOutput`;
  * `BuildOutput.toBytes?`: the words as bytes, the lowest byte first;
  * `BuildOutput.toModule`: source text that defines the words and the files as two tuples;
  * `BuildOutput.toDepfile`: rules for `make` by which a target depends on the files.
-/
import ShaderBuild.Fault
import ShaderBuild.Text.Blank
import ShaderBuild.Text.Identifier

namespace ShaderBuild

/-- The result of a build. -/
structure BuildOutput where
  /-- The paths of the files that the module was built from, in the order they were met. -/
  sources : List Text
  /-- The words of the module. -/
  words : List Int
  deriving DecidableEq

namespace BuildOutput

/-- The output with its sizes, for debugging. -/
def describe (o : BuildOutput) : Text :=
  text "<BuildOutput " ++ Numeral.ofNat o.words.length ++ text " words from "
    ++ Numeral.ofNat o.sources.length ++ text " sources>"

/-! ## Bytes -/

/-- Is the integer a word: unsigned, with 32 bits? -/
def isWord (n : Int) : Bool := 0 ≤ n && n < 0x100000000

/-- The four bytes of a word, the lowest first. -/
def wordBytes (n : Int) : Bytes :=
  let w := n.toNat
  [.ofNat w, .ofNat (w / 0x100), .ofNat (w / 0x10000), .ofNat (w / 0x1000000)]

/-- The bytes of the words. -/
def toBytes (o : BuildOutput) : Except Fault Bytes :=
  if o.words.all isWord then .ok (o.words.flatMap wordBytes) else .error .wordRange

/-! ## Source text -/

/-- A word in hexadecimal.  The sign counts as one of the eight places. -/
def wordText (n : Int) : Text :=
  if n < 0 then text "0x-" ++ Numeral.hex 7 n.natAbs else text "0x" ++ Numeral.hex 8 n.natAbs

/-- The number of words on a line. -/
def wordsPerLine : Nat := 6

/-- The words in lines. -/
def wordLines : List Int → List (List Int)
  | [] => []
  | w :: ws =>
    (w :: ws.take (wordsPerLine - 1)) :: wordLines (ws.drop (wordsPerLine - 1))
  termination_by ws => ws.length
  decreasing_by simp only [List.length_drop, List.length_cons]; omega

/-- A line with words, a comma after each. -/
def wordLine (words : List Int) : Text :=
  text "    " ++ List.intercalate (text " ") (words.map fun w => wordText w ++ text ",")

/-- A line with a path. -/
def sourceLine (path : Text) : Text := text "    " ++ Quoted.quote path ++ text ","

/-- The lines of the definition of a tuple. -/
def tupleLines (name : Text) (items : List Text) : List Text :=
  (name ++ text " = (") :: items ++ [text ")"]

/-- The name of the words unless another is given. -/
def defaultName : Text := text "SPIRV"

/-- The lines of source text that defines the words under a name. -/
def moduleLines (o : BuildOutput) (name : Text) : List Text :=
  [text "# Generated by vkshader. Do not edit.", []]
    ++ tupleLines (text "SOURCES") (o.sources.map sourceLine) ++ [[]]
    ++ tupleLines name ((wordLines o.words).map wordLine)

/-- Source text that defines the words under a name, which must be an identifier. -/
def toModule (o : BuildOutput) (name : Text) : Except Fault Text :=
  if Text.isIdentifier name then .ok ((o.moduleLines name).flatMap fun line => line ++ text "\n")
  else .error (.value (.moduleName name))

/-- Source text that defines the words under what is given as a name. -/
def toModuleNamed (o : BuildOutput) : Datum → Except Fault Text
  | .text name => o.toModule name
  | d => .error (.member (.missing d.className (text "isidentifier")))

/-! ## Dependencies -/

/-- How a code point of a path is written in a rule. -/
def escapePoint (c : CodePoint) : Text :=
  if c = '$' then text "$$"
  else if c = '#' then text "\\#"
  else if c = ' ' then text "\\ "
  else [c]

/-- How a path is written in a rule. -/
def escapePath (path : Text) : Text := path.flatMap escapePoint

/-- The rule by which a target depends on the files. -/
def dependencyLine (o : BuildOutput) (target : Text) : Text :=
  Text.stripEnd CodePoint.isBlank
    (escapePath target ++ text ": " ++ List.intercalate (text " ") (o.sources.map escapePath))

/-- The rule without dependencies for a path. -/
def phonyLine (path : Text) : Text := escapePath path ++ text ":"

/-- The rule by which a target depends on the files; with `phony` also a rule for each file, so that
    a file may be gone. -/
def toDepfile (o : BuildOutput) (target : Text) (phony : Bool) : Text :=
  (o.dependencyLine target :: if phony then o.sources.map phonyLine else []).flatMap
    fun line => line ++ text "\n"

end BuildOutput

end ShaderBuild
