/-
  The entry points: invocations, which are texts with a source and options, and calls with the two
  as arguments.

  A file invocation is a string with a path, followed by options behind a comma.  A source
  invocation is options, each behind it a comma, followed by a string with the source.  Both end in
  a call with the span of the string.

  * `Parser.fileInvocation`, `Parser.sourceInvocation`, `Parser.optionText`;
  * `OptionsArgument`, and the options it stands for;
  * `compileFile`, `compileSource`, `includeGlsl`, `glsl`.
-/
import ShaderBuild.Build
import ShaderBuild.Options.Entry

namespace ShaderBuild

namespace Parser

/-- Take something and nothing else. -/
def whole (p : Parser α) : Parser α := do
  let a ← p
  finish
  return a

/-- Take a comma and options, or the defaults if there is no comma. -/
def trailingOptions (env : Environment) : Parser CompileOptions := do
  if ← punct? (text ",") then return (← options env).options
  else return .defaults env

/-- Take a file invocation: a path, and options. -/
def fileInvocation (env : Environment) : Parser (Taken Text × CompileOptions) := whole do
  let path ← str
  let options ← trailingOptions env
  return (path, options)

/-- Take options with a comma behind each of them, also the last one. -/
def leadingOptions (env : Environment) : Parser CompileOptions := do
  let list ← options env
  if list.unterminated then
    let _ ← punct (text ",")
    return list.options
  else return list.options

/-- Take a source invocation: options, and a source. -/
def sourceInvocation (env : Environment) : Parser (Taken Text × CompileOptions) := whole do
  let options ← leadingOptions env
  let source ← str
  let _ ← punct? (text ",")
  return (source, options)

/-- Take options and nothing else. -/
def optionText (env : Environment) : Parser CompileOptions := whole do
  let list ← options env
  return list.options

end Parser

/-! ## Options as arguments -/

/-- What is given as options. -/
inductive OptionsArgument where
  | options (o : CompileOptions)
  | text (t : Text)
  /-- Something that is no options. -/
  | other (d : Datum)

namespace OptionsArgument

/-- What is given as options by a value. -/
def ofDatum : Datum → OptionsArgument
  | .text t => .text t
  | d => .other d

/-- The name of the text that options are read from. -/
def origin : Text := ShaderBuild.text "<options>"

/-- The options of a text. -/
def parse (env : Environment) (t : Text) : Except Fault CompileOptions :=
  match TokenStream.ofText t origin with
  | .error f => .error f
  | .ok stream => (Parser.optionText env stream).1

/-- The options that are given in one way or the other, but not in both. -/
def resolve (env : Environment) (argument : Option OptionsArgument) (fields : Option OptionFields) :
    Except Fault CompileOptions :=
  match argument, fields with
  | none, fields => CompileOptions.make env (fields.getD {})
  | some _, some _ => .error (.type .combinedOptions)
  | some (.options o), none => .ok o
  | some (.text t), none => parse env t
  | some (.other d), none => do throw (.type (.invalidOptions (← Fault.formOf d)))

/-- What is logged when options are given. -/
def log (env : Environment) (argument : Option OptionsArgument) (fields : Option OptionFields) :
    Log :=
  match argument, fields with
  | none, fields => CompileOptions.makeLog env (fields.getD {})
  | some (.text t), none => if (TokenStream.ofText t origin).isOk then OptionList.log env else []
  | some _, some _ | some (.options _), none | some (.other _), none => []

end OptionsArgument

/-! ## Calls -/

variable {ν : Type}

/-- The fault of a shader file that is not read. -/
def sourceFault (path : Text) (span : Option Span) (f : ReadFault) : Fault :=
  .shader ⟨.sourceRead (.unreadable f) path, span⟩

/-- Compile a file with options. -/
def compileFileWith (s : Setting ν) (root : Option Datum) (path : Text) (options : CompileOptions)
    (span : Option Span) : BuildRun ν :=
  match s.root root with
  | .error f => .failed f
  | .ok root =>
    let path := Path.absolute s.cwd (Path.join root path)
    match s.read.readText (sourceFault path span) path with
    | .error f => .failed f
    | .ok source => build s (some (.text root)) ⟨source, path, some path, span⟩ options

/-- Compile a source with options. -/
def compileSourceWith (s : Setting ν) (root : Option Datum) (source : Text)
    (options : CompileOptions) (span : Option Span) : BuildRun ν :=
  build s root ⟨source, SourceUnit.inlineName, none, span⟩ options

/-- Go on with the options that are given. -/
def withOptions (s : Setting ν) (argument : Option OptionsArgument) (fields : Option OptionFields)
    (use : CompileOptions → BuildRun ν) : BuildRun ν :=
  let log := OptionsArgument.log s.environment argument fields
  match OptionsArgument.resolve s.environment argument fields with
  | .error f => .failed f log
  | .ok options => (use options).after log

/-- Compile a file. -/
def compileFile (s : Setting ν) (root : Option Datum) (path : Text)
    (argument : Option OptionsArgument) (fields : Option OptionFields) (span : Option Span) :
    BuildRun ν :=
  withOptions s argument fields fun options => compileFileWith s root path options span

/-- Compile a source, if it is a text. -/
def compileSource (s : Setting ν) (root : Option Datum) (source : Datum)
    (argument : Option OptionsArgument) (fields : Option OptionFields) (span : Option Span) :
    BuildRun ν :=
  match source with
  | .text source =>
    withOptions s argument fields fun options => compileSourceWith s root source options span
  | _ => .failed (.type .sourceNotText)

/-! ## Invocations -/

/-- What is logged by a file invocation: nothing, unless it starts with a path. -/
def fileInvocationLog (env : Environment) (stream : TokenStream) : Log :=
  if stream.peek .str then OptionList.log env else []

/-- Compile the file of an invocation. -/
def includeGlsl (s : Setting ν) (root : Option Datum) (invocation origin : Text) : BuildRun ν :=
  match TokenStream.ofText invocation origin with
  | .error f => .failed f
  | .ok stream =>
    let log := fileInvocationLog s.environment stream
    match (Parser.fileInvocation s.environment stream).1 with
    | .error f => .failed f log
    | .ok (path, options) =>
      (compileFileWith s root path.value options (some path.token.span)).after log

/-- Compile the source of an invocation. -/
def glsl (s : Setting ν) (root : Option Datum) (invocation origin : Text) : BuildRun ν :=
  match TokenStream.ofText invocation origin with
  | .error f => .failed f
  | .ok stream =>
    let log := OptionList.log s.environment
    match (Parser.sourceInvocation s.environment stream).1 with
    | .error f => .failed f log
    | .ok (source, options) =>
      (compileSourceWith s root source.value options (some source.token.span)).after log

/-- The names of the texts of invocations, unless others are given. -/
def fileInvocationOrigin : Text := text "<include_glsl>"

/-- The name of the text of a source invocation, unless another is given. -/
def sourceInvocationOrigin : Text := text "<glsl>"

end ShaderBuild
