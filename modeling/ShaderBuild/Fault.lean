/-
  What can go wrong, as causes, and the wording of each cause.

  * `FileFault`, `ReadFault`: operations on files;
  * `ConfigFault`, `ResolutionFault`, `SourceFault`, `BackendFault`, `UnavailableFault`: the causes
    of a failed build;
  * `ShaderError`: a cause of a failed build with the span of the invocation that asked for it;
  * `Fault`: every way in which an operation fails, the misuse of an operation included.
-/
import ShaderBuild.Datum
import ShaderBuild.Invocation.Lexeme
import ShaderBuild.Invocation.StringLiteral
import ShaderBuild.Invocation.Token
import ShaderBuild.Text.Utf8

namespace ShaderBuild

/-! ## Files -/

/-- Why a file is not opened. -/
inductive FileFault.Cause where
  | notFound
  | notDirectory
  | isDirectory
  | nameTooLong
  deriving DecidableEq

/-- A file that is not opened, and the path it was asked for by. -/
structure FileFault where
  cause : FileFault.Cause
  path : Text
  deriving DecidableEq

/-- The number and the wording of a cause. -/
def FileFault.Cause.message : FileFault.Cause → String
  | .notFound => "[Errno 2] No such file or directory: "
  | .notDirectory => "[Errno 20] Not a directory: "
  | .isDirectory => "[Errno 21] Is a directory: "
  | .nameTooLong => "[Errno 36] File name too long: "

def FileFault.message (f : FileFault) : Text := text f.cause.message ++ Quoted.quote f.path

/-- Why the text of a file is not read. -/
inductive ReadFault where
  | file (f : FileFault)
  | undecodable (f : Utf8.Fault)
  deriving DecidableEq

def ReadFault.message : ReadFault → Text
  | .file f => f.message
  | .undecodable f => f.message

/-! ## Builds -/

/-- What a parser expects at a token. -/
inductive Expectation where
  | identifier
  | integer
  | string
  | symbol (t : Text)
  deriving DecidableEq

def Expectation.message : Expectation → Text
  | .identifier => text "identifier"
  | .integer => text "integer literal"
  | .string => text "string literal"
  | .symbol t => Quoted.quote t

/-- What is wrong with an invocation or its options. -/
inductive ConfigFault where
  | noLexemes (reason : Lexeme.Reason)
  | invalidString (spelling : Text) (fault : StringLiteral.Fault)
  | notText (spelling : Text)
  | stray (spelling : Text)
  | expected (what : Expectation) (found : Token)
  | unexpected (found : Token)
  | unknownStage (name : Text)
  | versionTooLarge (version : Int)
  | unknownLevel (name : Text)
  | unknownTarget (name : Text)
  | unknownOption (name : Text)
  | other (message : Text)
  deriving DecidableEq

def ConfigFault.message : ConfigFault → Text
  | .noLexemes reason => text "Could not tokenize invocation: " ++ reason.message
  | .invalidString s f =>
    text "Invalid string literal " ++ Quoted.quote s ++ text ": " ++ f.message
  | .notText s => text "Expected a str literal, got " ++ Quoted.quote s
  | .stray s => text "Unexpected token " ++ Quoted.quote s
  | .expected what found =>
    text "Expected " ++ what.message ++ text ", found " ++ found.describe
  | .unexpected found => text "Unexpected " ++ found.describe
  | .unknownStage name =>
    text "unknown shader kind " ++ Quoted.quote name ++ text " for option 'kind'"
  | .versionTooLarge n =>
    text "version " ++ Numeral.ofInt n ++ text " does not fit in an unsigned 32-bit integer"
  | .unknownLevel name =>
    text "unknown optimization level " ++ Quoted.quote name ++ text " for option 'optimize'"
  | .unknownTarget name =>
    text "unknown target " ++ Quoted.quote name ++ text " for option 'target'"
  | .unknownOption name => text "unknown shader compile option " ++ Quoted.quote name
  | .other message => message

/-- Why an include is not resolved. -/
inductive ResolutionFault where
  /-- The path is not a sequence of scalar values. -/
  | notUnicode
  | unreadable (fault : ReadFault)
  | other (message : Text)
  deriving DecidableEq

/-- The wording of a fault with the resolved path. -/
def ResolutionFault.message (path : Text) : ResolutionFault → Text
  | .notUnicode => text "non-unicode path: " ++ Quoted.quote path
  | .unreadable f => text "Could not read include " ++ path ++ text ": " ++ f.message
  | .other message => message

/-- Why a shader file is not read. -/
inductive SourceFault where
  | unreadable (fault : ReadFault)
  | other (message : Text)
  deriving DecidableEq

/-- The wording of a fault with the path of the shader. -/
def SourceFault.message (path : Text) : SourceFault → Text
  | .unreadable f => text "Could not read shader " ++ path ++ text ": " ++ f.message
  | .other message => message

/-- Why a compiler gives no usable result. -/
inductive BackendFault where
  /-- The library gives no compiler. -/
  | noCompiler
  /-- The library gives no compile options. -/
  | noOptions
  | noResult
  /-- The compilation failed without a message; the status as it is named. -/
  | failed (status : Text)
  /-- The shader compiled with that many warnings and without a message. -/
  | warnings (count : Int)
  | other (message : Text)
  deriving DecidableEq

def BackendFault.message : BackendFault → Text
  | .noCompiler => text "Could not initialize the shaderc compiler."
  | .noOptions => text "Could not initialize the shaderc compile options."
  | .noResult => text "The shaderc compiler returned no result."
  | .failed status => text "Shader compilation failed (" ++ status ++ text ")."
  | .warnings count =>
    text "Shader compiled with " ++ Numeral.ofInt count ++ text " warning(s)."
  | .other message => message

/-- Why no compiler is available. -/
inductive UnavailableFault where
  /-- The library at a path is not loaded, for a reason of the system. -/
  | noLibrary (path reason : Text)
  /-- The backend is not loaded, for a reason of the system. -/
  | noBackend (reason : Text)
  | other (message : Text)
  deriving DecidableEq

def UnavailableFault.message : UnavailableFault → Text
  | .noLibrary path reason =>
    text "Could not load the shaderc library (" ++ path ++ text "): " ++ reason
      ++ text ". Install shaderc (e.g. via the Vulkan SDK) or set SHADERC_LIB_PATH."
  | .noBackend reason => text "Could not load the shaderc backend: " ++ reason
  | .other message => message

/-- What a failed build is about. -/
inductive Problem where
  | general (message : Text)
  | config (fault : ConfigFault)
  | resolution (fault : ResolutionFault) (path : Text)
  | sourceRead (fault : SourceFault) (path : Text)
  | backend (fault : BackendFault)
  | unavailable (fault : UnavailableFault)
  deriving DecidableEq

/-- A failed build, with the span of the invocation that asked for it if that is known. -/
structure ShaderError where
  problem : Problem
  span : Option Span := none
  deriving DecidableEq

namespace ShaderError

/-- The message without the span. -/
def message (e : ShaderError) : Text :=
  match e.problem with
  | .general message => message
  | .config f => f.message
  | .resolution f path => f.message path
  | .sourceRead f path => f.message path
  | .backend f => f.message
  | .unavailable f => f.message

/-- The path that a failed build is about. -/
def path? (e : ShaderError) : Option Text :=
  match e.problem with
  | .resolution _ path | .sourceRead _ path => some path
  | _ => none

/-- Can the error be reported?  Its span must be citable. -/
def isReportable (e : ShaderError) : Bool := e.span.all Span.isCitable

/-- The message behind the span it is about. -/
def report (e : ShaderError) : Text :=
  match e.span with
  | some s => s.cite ++ text ": " ++ e.message
  | none => e.message

/-- The error with a span, unless it has one. -/
def locate (e : ShaderError) (span : Option Span) : ShaderError :=
  match e.span with
  | some _ => e
  | none => { e with span }

end ShaderError

/-! ## All operations -/

/-- What is wrong with a value. -/
inductive ValueFault where
  /-- An integer is too long to be written. -/
  | tooLongToWrite
  | numeral (fault : Numeral.Fault)
  /-- The written form of something that is no stage. -/
  | invalidStage (form : Text)
  /-- The written form of something that is no optimization level. -/
  | invalidLevel (form : Text)
  /-- The written form of a version that is out of range. -/
  | versionRange (form : Text)
  | minorRange (minor : Int)
  /-- The written form of something that is no way to name an include. -/
  | includeType (form : Text)
  | moduleName (name : Text)
  | topicName
  | nullByte
  /-- The name of an enumeration holds a zero. -/
  | enumName
  deriving DecidableEq

/-- The most of a quoted numeral that is cited. -/
def citedLength : Nat := 200

def ValueFault.message : ValueFault → Text
  | .tooLongToWrite =>
    text "Exceeds the limit (4300 digits) for integer string conversion; "
      ++ text "use sys.set_int_max_str_digits() to increase the limit"
  | .numeral (.notDecimal t) =>
    text "invalid literal for int() with base 10: " ++ (Quoted.quote t).take citedLength
  | .numeral (.tooLong digits) =>
    text "Exceeds the limit (4300 digits) for integer string conversion: value has "
      ++ Numeral.ofNat digits
      ++ text " digits; use sys.set_int_max_str_digits() to increase the limit"
  | .invalidStage form => text "Invalid shader kind: " ++ form
  | .invalidLevel form => text "Invalid optimization level: " ++ form
  | .versionRange form => text "GLSL version out of range: " ++ form
  | .minorRange n => text "Vulkan minor version out of range: " ++ Numeral.ofInt n
  | .includeType form => text "Invalid include type: " ++ form
  | .moduleName name => text "Invalid Python name: " ++ Quoted.quote name
  | .topicName =>
    text "Diagnostics name must be an identifier (i.e. use underscore instead of spaces)."
  | .nullByte => text "embedded null byte"
  | .enumName => text "type name must not contain null characters"

/-- What is wrong with the kind of a value. -/
inductive TypeFault where
  | noCompileMethod
  | combinedOptions
  /-- The written form of something that is no options. -/
  | invalidOptions (form : Text)
  | sourceNotText
  /-- Something of a class is no path. -/
  | notPath (className : Text)
  | enumField
  /-- Something of a class has no order with integers. -/
  | notOrdered (className : Text)
  /-- Something of a class has no items. -/
  | notIterable (className : Text)
  /-- Something of a class cannot be a key. -/
  | notKey (className : Text)
  /-- Something of a class cannot be the name of an enumeration. -/
  | enumName (name className : Text)
  /-- A topic stands where an operation was. -/
  | notCallable
  /-- A topic stands where the topics were. -/
  | noItemAssignment
  /-- A topic stands where the topics were. -/
  | noItems
  /-- A topic cannot stand for the class of an object. -/
  | classExpected
  /-- A topic cannot stand for the attributes of an object. -/
  | attributesExpected
  deriving DecidableEq

def TypeFault.message : TypeFault → Text
  | .noCompileMethod => text "A vkshader backend must have a 'compile' method."
  | .combinedOptions =>
    text "Cannot combine an options object with option keyword arguments."
  | .invalidOptions form => text "Invalid compile options: " ++ form
  | .sourceNotText => text "compile_source() expects the source as a str."
  | .notPath className =>
    text "expected str, bytes or os.PathLike object, not " ++ className
  | .notOrdered className =>
    text "'<=' not supported between instances of 'int' and '" ++ className ++ text "'"
  | .notIterable className => text "'" ++ className ++ text "' object is not iterable"
  | .enumField => text "Enum fields must be str or int."
  | .notKey className => text "unhashable type: '" ++ className ++ text "'"
  | .enumName name className => text "can only assign string to " ++ name
      ++ text ".__name__, not '" ++ className ++ text "'"
  | .notCallable => text "'DiagnosticsBase' object is not callable"
  | .noItemAssignment => text "'DiagnosticsBase' object does not support item assignment"
  | .noItems => text "'DiagnosticsBase' object is not subscriptable"
  | .classExpected => text "__class__ must be set to a class, not 'DiagnosticsBase' object"
  | .attributesExpected => text "__dict__ must be set to a dictionary, not a 'DiagnosticsBase'"

/-- What is wrong with an attribute of an object. -/
inductive MemberFault where
  | missing (owner name : Text)
  | readOnly (owner name : Text)
  deriving DecidableEq

def MemberFault.message : MemberFault → Text
  | .missing owner name =>
    Quoted.quote owner ++ text " object has no attribute " ++ Quoted.quote name
  | .readOnly owner name =>
    text "attribute " ++ Quoted.quote name ++ text " of " ++ Quoted.quote owner
      ++ text " objects is not writable"

/-- Every way in which an operation fails. -/
inductive Fault where
  | shader (error : ShaderError)
  | value (fault : ValueFault)
  | type (fault : TypeFault)
  | member (fault : MemberFault)
  | file (fault : FileFault)
  /-- A text with surrogates has no bytes. -/
  | unencodable
  /-- An integer does not fit the type of an argument. -/
  | overflow
  /-- A word is no unsigned integer of 32 bits. -/
  | wordRange
  /-- There are no bytes to take words from. -/
  | noBytes
  /-- Calls are nested deeper than the host has room for. -/
  | recursion
  /-- There is nothing under a key, which is given in its written form. -/
  | noItem (key : Text)
  | fixedEnum
  | noInstances
  | notImplemented
  deriving DecidableEq

namespace Fault

/-- The fault of an invocation, at a span. -/
def config (fault : ConfigFault) (span : Span) : Fault := .shader ⟨.config fault, some span⟩

/-- The fault of a compiler, without a span. -/
def backend (fault : BackendFault) : Fault := .shader ⟨.backend fault, none⟩

/-- Is the fault an error of a compiler? -/
def isBackend : Fault → Bool
  | .shader ⟨.backend _, _⟩ => true
  | _ => false

/-- The wording of a fault, without a span; some have none. -/
def message? : Fault → Option Text
  | .shader e => some e.message
  | .value f => some f.message
  | .type f => some f.message
  | .member f => some f.message
  | .file f => some f.message
  | .unencodable | .overflow | .wordRange | .recursion => none
  | .noBytes => some (text "cannot use unpack() on <cdata 'uint32_t *' NULL>")
  | .noItem key => some key
  | .fixedEnum => some (text "Cannot set values on an enum.")
  | .noInstances => some (text "Cannot instantiate an enum.")
  | .notImplemented => some []

/-- The wording of a fault, behind its span if it has one; empty if it has none. -/
def report : Fault → Text
  | .shader e => e.report
  | f => f.message?.getD []

/-- The integer, if it is short enough to be written. -/
def writable (n : Int) : Except Fault Int :=
  if Numeral.isWritable n then .ok n else .error (.value .tooLongToWrite)

/-- The bytes of a text as the system takes it, in which surrogates may stand for bytes.  There must
    be no zero among them. -/
def systemBytes (t : Text) : Except Fault Bytes :=
  match Utf8.encodeEscaped? t with
  | none => .error .unencodable
  | some bytes => if bytes.contains 0 then .error (.value .nullByte) else .ok bytes

/-- The written form of a value, if its integers are short enough. -/
def formOf (d : Datum) : Except Fault Text :=
  match d.form? with
  | some t => .ok t
  | none => .error (.value .tooLongToWrite)

/-- The written form of a value, or the text that it is, if its integers are short enough. -/
def showOf (d : Datum) : Except Fault Text :=
  match d.show? with
  | some t => .ok t
  | none => .error (.value .tooLongToWrite)

end Fault

end ShaderBuild
