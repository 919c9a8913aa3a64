import VoxelEngine.Data.KeyedSet
import VoxelEngine.Graphics.CompileSettings

/-!
# The shader compiler

The compiler keeps its preprocessors in a set that is ordered by priority.  For each stage it puts
in the additional preprocessors of the settings, runs all that are in the set, and takes the
additional ones out again, also when something is thrown in between.
-/

namespace VoxelEngine.Graphics

open Data Event

/-- What is thrown while a shader is compiled. -/
inductive CompileFault (E : Type) where
  | outOfRange
  | badAnyCast
  | runtimeError (message : List Char)
  | other (exception : E)
  deriving DecidableEq

/-- What is stored in the context of the preprocessors. -/
inductive ContextObject (S A X : Type) where
  | compileSettings
  | filepath (path : List Char)
  | name (name : List Char)
  | shaderStage (stage : S)
  | constantAttributes (attributes : List (S × List A))
  | other (object : X)

/-- What the preprocessors of one stage work on: the source, the context, and whatever else they
can change. -/
structure PreprocessState (S A X W : Type) where
  source : List Char
  context : ArbitraryStorage (ContextObject S A X)
  world : W

/-- The data from which a shader is made. -/
structure ShaderCompilationData (S A X B R : Type) where
  spirvBlobs : List (S × B)
  glslSources : List (S × List Char)
  glslSourceLocations : List (S × List Char)
  reflection : R
  settings : ShaderCompileSettings (ContextObject S A X)

/-- What the compiler calls: the preprocessors, the file system, the translation to SPIR-V, and
the reflection.  Stages have a name and a file extension. -/
structure CompilerFunctions (S A X W B R E : Type) where
  invoke : ShaderPreprocessor → ShaderCompileSettings (ContextObject S A X) →
    PreprocessState S A X W → Except (CompileFault E) (PreprocessState S A X W)
  absolute : List Char → Except (CompileFault E) (List Char)
  hash : ContextObject S A X → UInt64
  compileGlslToSpv : List Char → S → List Char → Nat → Except (List Char) B
  generateReflection : List Char → List (S × B) → Except (CompileFault E) R
  storeConstants : R → S × List A → R
  stageName : S → List Char
  fileExtension : S → List Char

/-- The set of preprocessors of a compiler. -/
abbrev PreprocessorSet :=
  KeyedSet fun preprocessor : ShaderPreprocessor => preprocessor.priority.code

/-- A preprocessor that was run, with the source before and after it. -/
structure Invocation where
  preprocessor : ShaderPreprocessor
  input : List Char
  output : List Char

variable {S A X W B R E : Type} [DecidableEq S] (functions : CompilerFunctions S A X W B R E)

/-- Store an object in a context. -/
def storeOrReplaceObject (name : String) (object : ContextObject S A X)
    (context : ArbitraryStorage (ContextObject S A X)) :
    ArbitraryStorage (ContextObject S A X) :=
  context.insertOrAssign (name.toList, ⟨object, functions.hash object⟩)

/-- Run preprocessors one after the other, until one throws. -/
def preprocess (settings : ShaderCompileSettings (ContextObject S A X)) :
    List ShaderPreprocessor → PreprocessState S A X W →
      List Invocation × Except (CompileFault E) (PreprocessState S A X W)
  | [], state => ([], .ok state)
  | preprocessor :: rest, state =>
      match functions.invoke preprocessor settings state with
      | .error fault => ([], .error fault)
      | .ok next =>
          let later := preprocess settings rest next
          (⟨preprocessor, state.source, next.source⟩ :: later.1, later.2)

/-- The entries of the context that tell preprocessors what they work on. -/
def stageContext (name : List Char) (path : Option (List Char)) (stage : S)
    (context : ArbitraryStorage (ContextObject S A X)) :
    Except (CompileFault E) (ArbitraryStorage (ContextObject S A X)) := do
  let located ← match path with
    | some path => do
        let absolute ← functions.absolute path
        pure (storeOrReplaceObject functions "ve.filepath" (.filepath absolute) context)
    | none => pure (context.erase "ve.filepath".toList)
  pure (storeOrReplaceObject functions "ve.compile_settings" .compileSettings
    (storeOrReplaceObject functions "ve.shader_stage" (.shaderStage stage)
      (storeOrReplaceObject functions "ve.name" (.name name) located)))

/-- What is left of a call of `createBlob`: the set of preprocessors, the preprocessors that were
run, and the blob with the state of the preprocessors, unless something was thrown. -/
structure BlobOutcome (S A X W B E : Type) where
  preprocessors : PreprocessorSet
  invocations : List Invocation
  result : Except (CompileFault E) (B × PreprocessState S A X W)

/-- The part of `createBlob` while the additional preprocessors are in the set. -/
def createBlobWith (preprocessors : PreprocessorSet) (name : List Char) (path : Option (List Char))
    (stage : S) (settings : ShaderCompileSettings (ContextObject S A X))
    (state : PreprocessState S A X W) :
    List Invocation × Except (CompileFault E) (B × PreprocessState S A X W) :=
  match stageContext functions name path stage state.context with
  | .error fault => ([], .error fault)
  | .ok context =>
      let preprocessed := preprocess functions settings preprocessors.elements
        { state with context := context }
      (preprocessed.1,
        match preprocessed.2 with
        | .error fault => .error fault
        | .ok final =>
            match functions.compileGlslToSpv final.source stage name settings.compilerOptions with
            | .error message =>
                .error (.runtimeError ("Failed to compile ".toList ++ functions.stageName stage ++
                  " for shader ".toList ++ name ++ ":\n".toList ++ message))
            | .ok blob => .ok (blob, final))

def createBlob (preprocessors : PreprocessorSet) (name : List Char) (path : Option (List Char))
    (stage : S) (settings : ShaderCompileSettings (ContextObject S A X))
    (state : PreprocessState S A X W) : BlobOutcome S A X W B E :=
  let extended := preprocessors.insertAll settings.additionalPreprocessors
  let outcome := createBlobWith functions extended name path stage settings state
  { preprocessors := extended.eraseAll settings.additionalPreprocessors
    invocations := outcome.1
    result := outcome.2 }

/-- What is known of a shader after some of its stages. -/
structure CompiledStages (S A X W B : Type) where
  spirvBlobs : List (S × B)
  glslSources : List (S × List Char)
  glslSourceLocations : List (S × List Char)
  context : ArbitraryStorage (ContextObject S A X)
  world : W

/-- The location of a source: none is known if there are no locations, but otherwise there has to
be one. -/
def locationOf (locations : List (S × List Char)) (stage : S) :
    Except (CompileFault E) (Option (List Char)) :=
  if locations.isEmpty then .ok none
  else
    match locations.lookup stage with
    | some path => .ok (some path)
    | none => .error .outOfRange

/-- Where a source without a location is said to be. -/
def fakepath (name : List Char) (stage : S) : List Char :=
  "/ve/fakepath/".toList ++ name ++ functions.fileExtension stage

/-- Compile the stages one after the other. -/
def compileStages (name : List Char) (settings : ShaderCompileSettings (ContextObject S A X))
    (locations : List (S × List Char)) :
    List (S × List Char) → PreprocessorSet → CompiledStages S A X W B →
      PreprocessorSet × Except (CompileFault E) (CompiledStages S A X W B)
  | [], preprocessors, compiled => (preprocessors, .ok compiled)
  | (stage, source) :: rest, preprocessors, compiled =>
      match locationOf locations stage with
      | .error fault => (preprocessors, .error fault)
      | .ok path =>
          let outcome := createBlob functions preprocessors name path stage settings
            ⟨source, compiled.context, compiled.world⟩
          match outcome.result with
          | .error fault => (outcome.preprocessors, .error fault)
          | .ok (blob, final) =>
              compileStages name settings locations rest outcome.preprocessors
                { spirvBlobs := compiled.spirvBlobs ++ [(stage, blob)]
                  glslSources := compiled.glslSources ++ [(stage, source)]
                  glslSourceLocations := compiled.glslSourceLocations ++
                    [(stage, path.getD (fakepath functions name stage))]
                  context := final.context
                  world := final.world }

/-- The constants that were found by the preprocessor for them. -/
def constantReflection (context : ArbitraryStorage (ContextObject S A X)) :
    Except (CompileFault E) (List (S × List A)) :=
  match context.find "ve.constant_reflect.attribs".toList with
  | none => .error .outOfRange
  | some ⟨.constantAttributes attributes, _⟩ => .ok attributes
  | some _ => .error .badAnyCast

/-- `shader_compiler::compile`: the set of preprocessors after it, and what it returns. -/
def compile (preprocessors : PreprocessorSet) (sources : List (S × List Char)) (name : List Char)
    (settings : ShaderCompileSettings (ContextObject S A X)) (locations : List (S × List Char))
    (world : W) :
    PreprocessorSet × Except (CompileFault E) (ShaderCompilationData S A X B R × W) :=
  let context := storeOrReplaceObject functions "ve.compile_settings" .compileSettings
    settings.preprocessorContext
  let stages := compileStages functions name settings locations sources preprocessors
    ⟨[], [], [], context, world⟩
  (stages.1, do
    let compiled ← stages.2
    let reflection ← functions.generateReflection name compiled.spirvBlobs
    let constants ← constantReflection compiled.context
    pure ({ spirvBlobs := compiled.spirvBlobs
            glslSources := compiled.glslSources
            glslSourceLocations := compiled.glslSourceLocations
            reflection := constants.foldl functions.storeConstants reflection
            settings := settings }, compiled.world))

variable {functions} {name : List Char} {settings : ShaderCompileSettings (ContextObject S A X)}
  {locations sources : List (S × List Char)} {preprocessors : PreprocessorSet} {world : W}

omit [DecidableEq S] in
/-- Additional preprocessors leave with those that have their priorities. -/
theorem preprocessors_createBlob {path : Option (List Char)} {stage : S}
    {state : PreprocessState S A X W} :
    (createBlob functions preprocessors name path stage settings state).preprocessors =
      (preprocessors.insertAll settings.additionalPreprocessors).eraseAll
        settings.additionalPreprocessors :=
  rfl

/-- Stages leave a set that no additional preprocessor shares a priority with as it is. -/
theorem preprocessors_compileStages_of_apart
    (apart : (preprocessors.insertAll settings.additionalPreprocessors).eraseAll
      settings.additionalPreprocessors = preprocessors) (compiled : CompiledStages S A X W B) :
    (compileStages functions name settings locations sources preprocessors compiled).1 =
      preprocessors := by
  induction sources generalizing compiled with
  | nil => rfl
  | cons source rest ih =>
      unfold compileStages
      split
      · rfl
      · dsimp only
        rw [preprocessors_createBlob, apart]
        split
        · rfl
        · exact ih _

/-- The first stage that gets to its preprocessors decides what is left of the set. -/
theorem preprocessors_compileStages {stage : S} {source : List Char} {path : Option (List Char)}
    (located : locationOf locations stage = (.ok path : Except (CompileFault E) _))
    (compiled : CompiledStages S A X W B) :
    (compileStages functions name settings locations ((stage, source) :: sources) preprocessors
        compiled).1 =
      (preprocessors.insertAll settings.additionalPreprocessors).eraseAll
        settings.additionalPreprocessors := by
  unfold compileStages
  rw [located]
  dsimp only
  rw [preprocessors_createBlob]
  split
  · rfl
  · exact preprocessors_compileStages_of_apart KeyedSet.eraseAll_insertAll_again _

/-- No stage gets to its preprocessors: there is none, or the first one has no location among
those that are given. -/
def ReachesNoStage (sources locations : List (S × List Char)) : Prop :=
  ∀ first ∈ sources.head?, locations ≠ [] ∧ locations.lookup first.1 = none

theorem locationOf_eq_error_iff {stage : S} :
    (∃ fault : CompileFault E, locationOf locations stage = .error fault) ↔
      locations ≠ [] ∧ locations.lookup stage = none := by
  unfold locationOf
  cases locations with
  | nil => simp
  | cons first rest =>
      cases found : (first :: rest).lookup stage <;> simp

/-- Compiling leaves the set of preprocessors as it was if and only if no stage gets to its
preprocessors or no additional preprocessor has the priority of one in the set. -/
theorem compile_restores_iff :
    (compile functions preprocessors sources name settings locations world).1 = preprocessors ↔
      ReachesNoStage sources locations ∨
        ∀ present ∈ preprocessors, ∀ additional ∈ settings.additionalPreprocessors,
          present.priority.code ≠ additional.priority.code := by
  rw [← KeyedSet.eraseAll_insertAll_eq_iff]
  unfold compile
  dsimp only
  cases sources with
  | nil =>
      apply iff_of_true rfl
      left
      intro first mem
      cases mem
  | cons first rest =>
      cases located : (locationOf locations first.1 : Except (CompileFault E) _) with
      | error fault =>
          have missing := locationOf_eq_error_iff.mp ⟨fault, located⟩
          apply iff_of_true
          · unfold compileStages
            rw [located]
          · left
            intro other mem
            cases mem
            exact missing
      | ok path =>
          rw [preprocessors_compileStages located]
          constructor
          · exact Or.inr
          · rintro (unreached | apart)
            · rcases locationOf_eq_error_iff.mpr (unreached first rfl) with ⟨fault, failed⟩
              cases located.symm.trans failed
            · exact apart

/-- Functions with which every stage compiles to its source. -/
def copyingFunctions : CompilerFunctions Unit Unit Unit Unit (List Char) Unit Unit where
  invoke := fun _ _ state => .ok
    { state with
      context := state.context.emplace
        ("ve.constant_reflect.attribs".toList, ⟨.constantAttributes [], 0⟩) }
  absolute := .ok
  hash := fun _ => 0
  compileGlslToSpv := fun source _ _ _ => .ok source
  generateReflection := fun _ _ => .ok ()
  storeConstants := fun _ _ => ()
  stageName := fun _ => []
  fileExtension := fun _ => []

/-- Settings with the given additional preprocessors and nothing else. -/
def additionalSettings {V : Type} (additional : List ShaderPreprocessor) :
    ShaderCompileSettings V where
  compilerOptions := 0
  preprocessorContext := HashTable.empty
  additionalPreprocessors := additional
  specializationSettings := ⟨HashTable.empty⟩
  pipelineType := 0
  preprocessorDefinitions := []

/-- The preprocessor that generates bindings, with the name that the cache gives to it. -/
def autobinder : ShaderPreprocessor :=
  ⟨1, "ve.autobinder".toList, ⟨.normal, 0⟩⟩

/-- Compiling one stage with an additional preprocessor of the same priority takes out the one
that generates bindings, although nothing is thrown. -/
theorem compile_removes_autobinder :
    ((KeyedSet.empty : PreprocessorSet).emplace autobinder).elements = [autobinder] ∧
      (compile copyingFunctions (KeyedSet.empty.emplace autobinder) [((), [])] []
          (additionalSettings [⟨2, [], ⟨.normal, 0⟩⟩]) [] ()).1.elements = [] ∧
      ∃ data, (compile copyingFunctions (KeyedSet.empty.emplace autobinder) [((), [])] []
          (additionalSettings [⟨2, [], ⟨.normal, 0⟩⟩]) [] ()).2 = .ok data := by
  constructor
  · decide
  · exact ⟨rfl, _, rfl⟩

end VoxelEngine.Graphics
