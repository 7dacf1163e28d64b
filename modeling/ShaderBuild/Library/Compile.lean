/-
  The compiler that uses the library.

  A compilation gets three things from the library, each of which it has to release: a compiler,
  options, and a result.  Each is released when what it was needed for is over, however that ends,
  so the result goes first and the compiler last.

  The library asks for includes while it compiles.  It gets an answer to each; the fault of the
  first include that is not resolved is kept, and is what the compilation ends with.

  * `Library.signed`: a word as a signed integer;
  * `Library.Settings`: what is set on compile options;
  * `Library.configure`: the calls that set it;
  * `Library.converse`: the includes;
  * `Library.withHandle`: the use of a handle, with its release;
  * `Library.compiler`: the compiler, which notes its steps.
-/
import ShaderBuild.Library.Interface
import ShaderBuild.Text.Blank

namespace ShaderBuild.Library

/-- The integer of 32 bits with a sign that an integer is as a word. -/
def signed (n : Int) : Int :=
  let word := n % 0x100000000
  if word < 0x80000000 then word else word - 0x100000000

/-- Make a call. -/
def tell (c : LibraryCall) : Attempt Step Unit := Attempt.tell (.call c)

/-- Make a call, if there is one to make. -/
def tell? : Option LibraryCall → Attempt Step Unit
  | some c => tell c
  | none => pure ()

/-! ## What is passed -/

/-- The bytes of a text, which must have no surrogates. -/
def encode (t : Text) : Attempt Step Bytes :=
  match Utf8.encode? t with
  | some bytes => pure bytes
  | none => throw .unencodable

/-- The bytes of a name, in which surrogates may stand for bytes. -/
def encodeName (t : Text) : Attempt Step Bytes :=
  match Utf8.encodeEscaped? t with
  | some bytes => pure bytes
  | none => throw .unencodable

/-- Pass a macro on. -/
def addMacro (d : Definition) : Attempt Step Unit := do
  let name ← encode d.1
  match d.2 with
  | none => tell (.addMacro name name.length none 0)
  | some value =>
    let value ← encode value
    tell (.addMacro name name.length (some value) value.length)

/-- Pass the version of the interface on, which must be a word. -/
def setTarget (env : TargetEnv) (version : Int) : Attempt Step Unit :=
  if 0 ≤ version ∧ version < 0x100000000 then tell (.setTarget env.code version)
  else throw .overflow

/-- What is set on compile options.  What is left out stays as the library has it. -/
structure Settings where
  version : Option UInt32 := none
  profile : GlslProfile := .none
  definitions : List Definition := []
  debugInfo : Bool := false
  optimization : Option OptimizationLevel := none
  env : TargetEnv := .vulkan
  envVersion : Int := Vulkan.version1_0
  /-- Is there somebody who answers requests for includes? -/
  hasCallback : Bool := false

/-- The settings for parameters. -/
def Settings.ofParameters (p : Parameters) : Settings where
  version := p.version
  profile := p.profile
  definitions := p.definitions
  debugInfo := p.debugInfo
  optimization := some p.optimization
  env := p.env
  envVersion := p.envVersion
  hasCallback := p.callback.isSome

/-- Set what is set on compile options. -/
def configure (s : Settings) : Attempt Step Unit := do
  tell? (s.version.map fun version => .setVersion (signed version.toNat) s.profile.code)
  s.definitions.forM addMacro
  tell? (if s.debugInfo then some .setDebugInfo else none)
  tell? (s.optimization.map fun level => .setOptimization level.code)
  setTarget s.env s.envVersion
  tell? (if s.hasCallback then some .setIncludeCallbacks else none)

/-! ## Includes -/

/-- A request with its names as texts. -/
def Request.toInclude (r : Request) : IncludeRequest where
  requested := Utf8.decodeEscaping (cString r.requested)
  kind := .int r.kind
  requesting := Utf8.decodeEscaping (cString r.requesting)
  depth := .int r.depth

/-- The fault of an answer, also of one whose texts have no bytes. -/
def replyOrFault : IncludeAnswer → Except Fault Reply
  | .error f => .error f
  | .ok file => match Utf8.encode? file.name, Utf8.encode? file.content with
    | some name, some content => .ok ⟨name, content⟩
    | _, _ => .error .unencodable

/-- What the library is told about a fault. -/
def Reply.ofFault (f : Fault) : Reply := ⟨[], Utf8.encodeLossy f.report⟩

/-- Let the library work, with the first fault so far, and answer what it asks. -/
def converse : Work → Option Fault → Dialogue Step (Option Result × Option Fault)
  | .finish result, first => .done (result, first)
  | .resolve request next, first =>
    .ask request.toInclude fun answer =>
      match replyOrFault answer with
      | .ok reply => .note (.call (callOf request reply)) (converse (next reply) first)
      | .error f =>
        .note (.call (callOf request (.ofFault f)))
          (converse (next (.ofFault f)) (first.or (some f)))
where
  /-- The call for a request and its answer. -/
  callOf (r : Request) (reply : Reply) : LibraryCall :=
    .resolve (cString r.requested) r.kind (cString r.requesting) r.depth reply.name reply.content

/-! ## Results -/

/-- The names of the statuses of a result. -/
def statusNames : List String :=
  ["success", "invalid stage", "compilation error", "internal error", "null result object",
   "invalid assembly", "validation error", "transformation error", "configuration error"]

/-- The name of a status, or its number. -/
def statusName (status : UInt32) : Text :=
  match statusNames[status.toNat]? with
  | some name => text name
  | none => Numeral.ofNat status.toNat

/-- The words of bytes, the lowest byte first.  What is left over at the end is no word. -/
def wordsOf : Bytes → List Int
  | a :: b :: c :: d :: rest =>
    (a.toNat + b.toNat * 0x100 + c.toNat * 0x10000 + d.toNat * 0x1000000 : Nat) :: wordsOf rest
  | _ => []

/-- The message of a result. -/
def Result.messageText (r : Result) : Text := Utf8.decodeEscaping (cString (r.message.getD []))

/-- What a result tells. -/
def Result.read (r : Result) : Except Fault CompilationResult :=
  if r.status = 0 then match r.bytes with
    | some bytes => .ok ⟨wordsOf bytes, r.warningCount.toNat, r.messageText⟩
    | none => .error .noBytes
  else
    let message := Text.strip CodePoint.isBlank r.messageText
    if message.isEmpty then .error (.backend (.failed (statusName r.status)))
    else .error (.backend (.other message))

/-- What is looked up in a result.  A failure has nothing but a message, and where there are no bytes
    the look ends. -/
def Result.fields (r : Result) : List Field :=
  if r.status = 0 then
    [.status, .message, .length, .bytes] ++ if r.bytes.isSome then [.warningCount] else []
  else [.status, .message]

/-! ## The compiler -/

/-- Use a handle, if the library lends it, and release it however that ends. -/
def withHandle (h : Handle) (isLent : Bool) (missing : BackendFault) (use : Attempt Step α) :
    Attempt Step α :=
  if isLent then .mk do
    Dialogue.tell (.lend h)
    let outcome ← use.run
    Dialogue.tell (.call h.release)
    return outcome
  else throw (.backend missing)

/-- Use the compiler of the library. -/
def withCompiler (library : Library) (use : Attempt Step α) : Attempt Step α := do
  tell .initializeCompiler
  withHandle .compiler library.hasCompiler .noCompiler use

/-- Use compile options of the library. -/
def withOptions (library : Library) (use : Attempt Step α) : Attempt Step α := do
  tell .initializeOptions
  withHandle .options library.hasOptions .noOptions use

/-- Look at a result. -/
def Result.examine (r : Result) : Attempt Step CompilationResult := do
  r.fields.forM fun field => Attempt.tell (.look field)
  .mk (.done r.read)

/-- Look at a result, if there is one, and release it. -/
def takeResult : Option Result → Attempt Step CompilationResult
  | none => throw (.backend .noResult)
  | some result => withHandle .result true .noResult result.examine

/-- What the library is given to compile. -/
structure Source where
  source : Text
  stage : Stage
  name : Text
  entry : Text
  deriving DecidableEq

/-- The job for a source, of which the bytes are given, and the call that passes it on. -/
def Source.job (s : Source) (bytes : Bytes) : Attempt Step (Job × LibraryCall) :=
  if s.stage = .spirvAssembly then
    pure (.assembly bytes, .assemble bytes bytes.length)
  else do
    let name := cString (← encodeName s.name)
    let entry := cString (← encode s.entry)
    return (.shader bytes s.stage.code name entry,
      .compile bytes bytes.length s.stage.code name entry)

/-- Have a job done: its result, and the fault of the first include that was not resolved. -/
def work (library : Library) (hasCallback : Bool) (job : Job) :
    Dialogue Step (Option Result × Option Fault) :=
  if hasCallback then converse (library.compile job) none
  else .done (library.compileAlone job, none)

/-- What is reported of a job.  The first include that was not resolved comes before a module and
    before an error of the compiler, but not before other faults. -/
def reported : Option Fault → Except Fault CompilationResult → Except Fault CompilationResult
  | none, outcome => outcome
  | some f, .ok _ => .error f
  | some f, .error e => .error (if e.isBackend then f else e)

/-- Have a job done, and read its result. -/
def perform (library : Library) (hasCallback : Bool) (job : Job) :
    Attempt Step CompilationResult := .mk do
  let (result, first) ← work library hasCallback job
  return reported first (← (takeResult result).run)

/-- Set compile options, and have a source compiled with them. -/
def compileConfigured (library : Library) (s : Source) (bytes : Bytes) (settings : Settings) :
    Attempt Step CompilationResult := do
  configure settings
  let (job, jobCall) ← s.job bytes
  tell jobCall
  perform library settings.hasCallback job

/-- What is logged about a source. -/
def Source.log (s : Source) : LogRecord :=
  ⟨.debug, text "Compiling " ++ s.name ++ text " as "
    ++ text s.stage.name ++ text " with shaderc"⟩

/-- Compile a source with settings. -/
def compileWith (library : Library) (s : Source) (settings : Settings) :
    Attempt Step CompilationResult := do
  Attempt.write s.log
  let bytes ← encode s.source
  withCompiler library <| withOptions library <| compileConfigured library s bytes settings

/-- The compiler. -/
def compiler (library : Library) : Compiler Step := fun call =>
  compileWith library ⟨call.source, call.stage, call.name, call.entry⟩
    (.ofParameters call.parameters)

end ShaderBuild.Library
