/-
  The version of a checkout: what git tells about the last tag, put together with the version that
  the program has by itself.

  * `Version.Described`: what a run of `git describe` tells; `Version.Described.ofRun` reads it;
  * `Version.extended`: the version with the number of commits and the labels;
  * `Version.inCheckout`: the version in a checkout and elsewhere.
-/
import ShaderBuild.Environment
import ShaderBuild.Text.Utf8
import ShaderBuild.Version.Basic

namespace ShaderBuild.Version

/-- What comes of running git. -/
inductive GitRun where
  /-- It cannot be run, for a reason of the system. -/
  | notRun (reason : Text)
  | exited (code : Int) (output errors : Bytes)

/-- What git tells about a checkout. -/
structure Described where
  /-- The version of the last tag. -/
  release : Option Text
  /-- The number of commits since. -/
  post : Option Text
  /-- The hash of the commit, and whether files have changed since. -/
  labels : List Text
  deriving DecidableEq

namespace Described

/-- Nothing is known. -/
def unknown : Described := ⟨none, none, [text "unknown"]⟩

/-- What the parts of git's answer tell: without a tag there are two of them at most. -/
def ofParts : List Text → Described
  | release :: post :: label :: labels => ⟨some release, some post, label :: labels⟩
  | labels => ⟨none, none, labels⟩

/-- The parts of git's answer. -/
def partsOf (output : Bytes) : List Text :=
  let answer := Text.strip CodePoint.isBlank (Utf8.decodeSkipping output)
  Text.splitOn '-' (Text.stripStart (fun c : CodePoint => c = 'v') answer)

/-- The warning that git does not answer. -/
def warning (reason : Text) : Log :=
  [⟨.warning, text "Could not get " ++ project ++ text " version: " ++ reason⟩]

/-- What a run of git tells, and what is logged about it. -/
def ofRun : GitRun → Described × Log
  | .notRun reason => (unknown, warning reason)
  | .exited code output errors =>
    if code = 0 then (ofParts (partsOf output), [])
    else (unknown, warning (Text.strip CodePoint.isBlank (Utf8.decodeSkipping errors)))

end Described

/-- The label of a checkout with changed files. -/
def dirty : Text := text "dirty"

/-- The labels as they are written behind a version. -/
def labelText (labels : List Text) : Text := text "+" ++ List.intercalate (text ".") labels

/-- The first three parts of a version. -/
def baseRelease (base : Text) : Text :=
  List.intercalate (text ".") ((Text.splitOn '.' base).take 3)

/-- The release of a checkout: that of the tag, if there is one. -/
def release (base : Text) (d : Described) : Text :=
  match d.release with
  | some (c :: t) => c :: t
  | some [] | none => baseRelease base

/-- What follows the release: the commits since and the labels, or for changed files just the
    labels. -/
def addition (d : Described) : Text :=
  let post := d.post.getD []
  if !post.isEmpty && post != text "0" then
    text ".post" ++ post ++ if d.labels.isEmpty then [] else labelText d.labels
  else if d.labels.getLast? = some dirty then labelText d.labels
  else []

/-- The warning that the tag and the version of the program differ. -/
def mismatchLog (base : Text) (d : Described) : Log :=
  if release base d = baseRelease base then []
  else [⟨.warning, project ++ text " version from git (" ++ release base d
    ++ text ") and __version__ (" ++ baseRelease base ++ text ") don't match."⟩]

/-- The version of a checkout. -/
def extended (base : Text) (d : Described) : Text := release base d ++ addition d

/-- The version, and what is logged.  Outside a checkout git is not asked. -/
def inCheckout (base : Text) (isCheckout : Bool) (run : GitRun) : Text × Log :=
  if isCheckout then
    let (d, log) := Described.ofRun run
    (extended base d, log ++ mismatchLog base d)
  else (base, [])

end ShaderBuild.Version
