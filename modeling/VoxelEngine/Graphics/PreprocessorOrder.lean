import VoxelEngine.Graphics.ShaderCompiler
import VoxelEngine.Transition.Run

/-!
# The order of the preprocessors

Every preprocessor that is registered or additional is to be run once, on what the one before it
left, and in descending order of the levels that are named.  The set in which they are kept
compares the numbers of the priorities only.  The order is as intended exactly if different
preprocessors never have the same number, and their numbers are ordered as their levels are.
-/

namespace VoxelEngine.Graphics

open Data Transition

/-- The preprocessor that the constructor of the compiler registers. -/
def builtinReflection : ShaderPreprocessor :=
  ⟨0, "ve.impl.constant_reflection".toList, ⟨.lowest, -1⟩⟩

/-- The calls that change what is registered. -/
inductive CompilerCall where
  | addPreprocessor (preprocessor : ShaderPreprocessor)
  | removePreprocessor (name : List Char)

/-- The set of a compiler, next to what was added to it and not removed again. -/
structure RegisteringCompiler where
  preprocessors : PreprocessorSet
  registered : List ShaderPreprocessor

namespace RegisteringCompiler

/-- The constructor of the compiler. -/
def created : RegisteringCompiler :=
  ⟨KeyedSet.empty.emplace builtinReflection, [builtinReflection]⟩

def addPreprocessor (compiler : RegisteringCompiler) (preprocessor : ShaderPreprocessor) :
    RegisteringCompiler :=
  ⟨compiler.preprocessors.emplace preprocessor, preprocessor :: compiler.registered⟩

def removePreprocessor (compiler : RegisteringCompiler) (name : List Char) :
    RegisteringCompiler :=
  ⟨compiler.preprocessors.eraseIf fun preprocessor => preprocessor.name == name,
    compiler.registered.filter fun preprocessor => !(preprocessor.name == name)⟩

def call (compiler : RegisteringCompiler) : CompilerCall → RegisteringCompiler
  | .addPreprocessor preprocessor => compiler.addPreprocessor preprocessor
  | .removePreprocessor name => compiler.removePreprocessor name

def step : Step RegisteringCompiler CompilerCall := fun compiler made => some (compiler.call made)

end RegisteringCompiler

/-- Each preprocessor was run on what the one before it left. -/
def Chained : List Char → List Invocation → List Char → Prop
  | source, [], final => source = final
  | source, invocation :: rest, final =>
      invocation.input = source ∧ Chained invocation.output rest final

/-- The order in which preprocessors are to be run. -/
structure IntendedOrder (wanted order : List ShaderPreprocessor) : Prop where
  once : order.Nodup
  each : ∀ preprocessor, preprocessor ∈ order ↔ preprocessor ∈ wanted
  descending : order.Pairwise fun first second =>
    second.priority.intended ≤ first.priority.intended
  reflectionLast : builtinReflection ∈ wanted →
    (∀ other ∈ wanted, other ≠ builtinReflection →
      builtinReflection.priority.intended < other.priority.intended) →
    order.getLast? = some builtinReflection

/-- Whenever a stage is compiled, the registered and the additional preprocessors were run in the
intended order, and what the last one left was translated. -/
def CompilesInOrder (additional : List ShaderPreprocessor) (compiler : RegisteringCompiler) :
    Prop :=
  ∀ (S A X W B R E : Type) [DecidableEq S] (functions : CompilerFunctions S A X W B R E)
    (name : List Char) (path : Option (List Char)) (stage : S)
    (settings : ShaderCompileSettings (ContextObject S A X)) (state final : PreprocessState S A X W)
    (blob : B) (outcome : BlobOutcome S A X W B E),
    settings.additionalPreprocessors = additional →
      createBlob functions compiler.preprocessors name path stage settings state = outcome →
      outcome.result = .ok (blob, final) →
        IntendedOrder (compiler.registered ++ additional)
            (outcome.invocations.map Invocation.preprocessor) ∧
          Chained state.source outcome.invocations final.source ∧
          functions.compileGlslToSpv final.source stage name settings.compilerOptions = .ok blob

/-- The numbers of two priorities differ, and are ordered as their levels are. -/
def ToldApart (first second : ShaderPreprocessor) : Prop :=
  first.priority.code < second.priority.code ∧
      first.priority.intended < second.priority.intended ∨
    second.priority.code < first.priority.code ∧
      second.priority.intended < first.priority.intended

/-- Any two different preprocessors are told apart. -/
def Separated (preprocessors : List ShaderPreprocessor) : Prop :=
  ∀ first ∈ preprocessors, ∀ second ∈ preprocessors, first ≠ second → ToldApart first second

instance (first second : ShaderPreprocessor) : Decidable (ToldApart first second) :=
  inferInstanceAs (Decidable (_ ∨ _))

instance (preprocessors : List ShaderPreprocessor) : Decidable (Separated preprocessors) :=
  inferInstanceAs (Decidable (∀ first ∈ preprocessors, ∀ second ∈ preprocessors, _ → _))

/-- After the call, what is registered and the additional preprocessors are told apart. -/
def KeepsSeparated (additional : List ShaderPreprocessor) (compiler : RegisteringCompiler)
    (made : CompilerCall) : Prop :=
  Separated ((compiler.call made).registered ++ additional)

/-- The set holds what is registered. -/
def HoldsRegistered (compiler : RegisteringCompiler) : Prop :=
  ∀ preprocessor, preprocessor ∈ compiler.preprocessors ↔ preprocessor ∈ compiler.registered

variable {S A X W B R E : Type} {functions : CompilerFunctions S A X W B R E}
  {settings : ShaderCompileSettings (ContextObject S A X)} {state final : PreprocessState S A X W}
  {additional wanted order : List ShaderPreprocessor} {compiler : RegisteringCompiler}

/-- When nothing is thrown, all preprocessors are run, each on what the one before it left. -/
theorem preprocess_spec
    (ran : (preprocess functions settings order state).2 = .ok final) :
    (preprocess functions settings order state).1.map Invocation.preprocessor = order ∧
      Chained state.source (preprocess functions settings order state).1 final.source := by
  induction order generalizing state with
  | nil =>
      cases ran
      exact ⟨rfl, rfl⟩
  | cons preprocessor rest ih =>
      unfold preprocess at ran ⊢
      cases invoked : functions.invoke preprocessor settings state with
      | error fault =>
          rw [invoked] at ran
          cases ran
      | ok next =>
          rw [invoked] at ran
          rcases ih ran with ⟨all, chained⟩
          exact ⟨congrArg (List.cons preprocessor) all, rfl, chained⟩

/-- A stage that was compiled had all preprocessors of the extended set run on its source. -/
theorem createBlob_spec [DecidableEq S] {preprocessors : PreprocessorSet} {name : List Char}
    {path : Option (List Char)} {stage : S} {blob : B} {outcome : BlobOutcome S A X W B E}
    (outcomeEq : createBlob functions preprocessors name path stage settings state = outcome)
    (compiled : outcome.result = .ok (blob, final)) :
    outcome.invocations.map Invocation.preprocessor =
        (preprocessors.insertAll settings.additionalPreprocessors).elements ∧
      Chained state.source outcome.invocations final.source ∧
      functions.compileGlslToSpv final.source stage name settings.compilerOptions = .ok blob := by
  rw [← outcomeEq] at compiled ⊢
  unfold createBlob createBlobWith at compiled ⊢
  dsimp only at compiled ⊢
  split at compiled
  · cases compiled
  · split at compiled
    · cases compiled
    · rename_i ran
      split at compiled
      · cases compiled
      · rename_i translated
        cases compiled
        rcases preprocess_spec ran with ⟨all, chained⟩
        exact ⟨all, chained, translated⟩

theorem ToldApart.symm {first second : ShaderPreprocessor} (apart : ToldApart first second) :
    ToldApart second first :=
  Or.symm apart

/-- Equal levels have equal numbers. -/
theorem code_eq_of_intended_eq {first second : ShaderPreprocessor}
    (same : first.priority.intended = second.priority.intended) :
    first.priority.code = second.priority.code := by
  have codes := first.priority.code_eq.trans
    ((congrArg (fun level => level % 65536) same).trans second.priority.code_eq.symm)
  exact Int.ofNat.inj codes

/-- Preprocessors that are run in the intended order by their numbers are told apart. -/
theorem IntendedOrder.separated {set : PreprocessorSet}
    (intended : IntendedOrder wanted set.elements) : Separated wanted := by
  have apart : set.elements.Pairwise ToldApart := by
    apply (set.sorted.and intended.descending).imp
    rintro first second ⟨lower, notHigher⟩
    right
    have different : second.priority.intended ≠ first.priority.intended := fun same =>
      Nat.ne_of_lt lower (code_eq_of_intended_eq same)
    exact ⟨lower, by omega⟩
  have symmetric : Std.Symm ToldApart := ⟨fun _ _ => ToldApart.symm⟩
  intro first firstMem second secondMem different
  exact apart.forall ((intended.each first).mpr firstMem) ((intended.each second).mpr secondMem)
    different

/-- The one below all others comes last. -/
theorem getLast?_of_descending {preprocessor : ShaderPreprocessor}
    (descending : order.Pairwise fun first second =>
      second.priority.intended ≤ first.priority.intended)
    (mem : preprocessor ∈ order)
    (below : ∀ other ∈ order, other ≠ preprocessor →
      preprocessor.priority.intended < other.priority.intended) :
    order.getLast? = some preprocessor := by
  induction order with
  | nil => cases mem
  | cons first rest ih =>
      rw [List.pairwise_cons] at descending
      rw [List.forall_mem_cons] at below
      cases rest with
      | nil => rw [List.mem_singleton.mp mem]; rfl
      | cons second others =>
          rw [List.getLast?_cons_cons]
          apply ih descending.2 _ below.2
          rcases List.mem_cons.mp mem with rfl | later
          · by_cases same : second = preprocessor
            · exact same ▸ List.mem_cons_self
            · have higher := below.2 second List.mem_cons_self same
              have lower := descending.1 second List.mem_cons_self
              omega
          · exact later

/-- If what is wanted is told apart, then a set of it is in the intended order. -/
theorem Separated.intendedOrder {set : PreprocessorSet} (separated : Separated wanted)
    (each : ∀ preprocessor, preprocessor ∈ set ↔ preprocessor ∈ wanted) :
    IntendedOrder wanted set.elements := by
  have descending : set.elements.Pairwise fun first second =>
      second.priority.intended ≤ first.priority.intended := by
    apply set.sorted.imp_of_mem
    intro first second firstMem secondMem lower
    have different : first ≠ second := by
      rintro rfl
      exact Nat.lt_irrefl _ lower
    rcases separated first ((each first).mp firstMem) second ((each second).mp secondMem)
        different with ⟨higher, _⟩ | ⟨_, less⟩
    · exact absurd lower (Nat.lt_asymm higher)
    · exact Int.le_of_lt less
  refine ⟨set.nodup_elements, each, descending, ?_⟩
  intro mem below
  apply getLast?_of_descending descending ((each _).mpr mem)
  intro other otherMem
  exact below other ((each other).mp otherMem)

/-- Preprocessors that only copy never throw. -/
theorem preprocess_copying (settings : ShaderCompileSettings (ContextObject Unit Unit Unit))
    (order : List ShaderPreprocessor) (state : PreprocessState Unit Unit Unit Unit) :
    ∃ final, (preprocess copyingFunctions settings order state).2 = .ok final := by
  induction order generalizing state with
  | nil => exact ⟨state, rfl⟩
  | cons preprocessor rest ih => exact ih _

/-- If a stage compiles in order, then what is registered and additional is told apart. -/
theorem CompilesInOrder.separated (inOrder : CompilesInOrder additional compiler) :
    Separated (compiler.registered ++ additional) := by
  have compiles : ∃ result, (createBlob copyingFunctions compiler.preprocessors [] none ()
      (additionalSettings additional) ⟨[], HashTable.empty, ()⟩).result = .ok result := by
    have prepared : ∃ context, stageContext copyingFunctions [] none () HashTable.empty =
        .ok context := ⟨_, rfl⟩
    rcases prepared with ⟨context, contextEq⟩
    rcases preprocess_copying (additionalSettings additional)
      (compiler.preprocessors.insertAll additional).elements ⟨[], context, ()⟩ with ⟨final, ran⟩
    exists (final.source, final)
    unfold createBlob createBlobWith
    dsimp only
    rw [contextEq]
    dsimp only
    rw [show (additionalSettings additional).additionalPreprocessors = additional from rfl, ran]
    rfl
  rcases compiles with ⟨result, compiled⟩
  have ordered := (inOrder _ _ _ _ _ _ _ _ _ _ _ _ _ _ _ _ rfl rfl compiled).1
  rw [(createBlob_spec rfl compiled).1] at ordered
  exact ordered.separated

/-- If the set holds what is registered, then a stage compiles in order if what is registered and
additional is told apart. -/
theorem Separated.compilesInOrder (separated : Separated (compiler.registered ++ additional))
    (holds : HoldsRegistered compiler) : CompilesInOrder additional compiler := by
  intro S A X W B R E _ functions name path stage settings state final blob outcome
    additional_eq outcomeEq compiled
  rcases createBlob_spec outcomeEq compiled with ⟨all, chained, translated⟩
  rw [all, additional_eq]
  refine ⟨separated.intendedOrder ?_, chained, translated⟩
  have inserted : ∀ added ∈ additional, added ∈ compiler.preprocessors.insertAll additional := by
    rw [KeyedSet.forall_mem_insertAll_iff]
    intro added addedMem present presentMem same
    by_contra different
    have presentWanted : present ∈ compiler.registered ++ additional := by
      rw [List.mem_append, ← holds]
      exact presentMem
    rcases separated present presentWanted added (List.mem_append_right _ addedMem) different with
      ⟨lower, _⟩ | ⟨higher, _⟩
    · exact Nat.ne_of_lt lower same
    · exact Nat.ne_of_gt higher same
  intro preprocessor
  rw [List.mem_append, ← holds]
  constructor
  · exact KeyedSet.mem_or_mem_of_mem_insertAll
  · rintro (present | added)
    · exact KeyedSet.mem_insertAll_of_mem present
    · exact inserted preprocessor added

/-- A call after which all are told apart leaves what is registered in the set. -/
theorem HoldsRegistered.call (holds : HoldsRegistered compiler) {made : CompilerCall}
    (separated : KeepsSeparated additional compiler made) :
    HoldsRegistered (compiler.call made) := by
  intro preprocessor
  cases made with
  | addPreprocessor added =>
      change _ ∈ compiler.preprocessors.emplace added ↔ _ ∈ added :: compiler.registered
      rw [KeyedSet.mem_emplace, holds, List.mem_cons, or_comm]
      constructor
      · exact Or.imp_left And.left
      · rintro (rfl | there)
        · by_cases there : preprocessor ∈ compiler.registered
          · exact Or.inr there
          · left
            refine ⟨rfl, ?_⟩
            intro present mem same
            rw [holds] at mem
            have different : present ≠ preprocessor := fun equal => there (equal ▸ mem)
            rcases separated present
                (List.mem_append_left _ (List.mem_cons_of_mem _ mem)) preprocessor
                (List.mem_append_left _ List.mem_cons_self) different with
              ⟨lower, _⟩ | ⟨higher, _⟩
            · exact Nat.ne_of_lt lower same
            · exact Nat.ne_of_gt higher same
        · exact Or.inr there
  | removePreprocessor name =>
      change _ ∈ compiler.preprocessors.eraseIf _ ↔ _ ∈ compiler.registered.filter _
      rw [KeyedSet.mem_eraseIf, List.mem_filter, holds, Bool.not_eq_true']

theorem holdsRegistered_created : HoldsRegistered RegisteringCompiler.created := by
  intro preprocessor
  change _ ∈ KeyedSet.empty.emplace builtinReflection ↔ _ ∈ [builtinReflection]
  rw [KeyedSet.mem_emplace, List.mem_singleton]
  constructor
  · rintro (there | ⟨rfl, _⟩)
    · exact absurd there KeyedSet.not_mem_empty
    · rfl
  · rintro rfl
    right
    refine ⟨rfl, ?_⟩
    intro present there
    exact absurd there KeyedSet.not_mem_empty

/-- After every sequence of calls, stages compile in order with the given additional preprocessors
if and only if at every point what is registered and the additional preprocessors are told
apart. -/
theorem compilesInOrder_iff (additional : List ShaderPreprocessor) (calls : List CompilerCall) :
    (∀ before after compiler, calls = before ++ after →
        run RegisteringCompiler.step RegisteringCompiler.created before = some compiler →
          CompilesInOrder additional compiler) ↔
      Separated (builtinReflection :: additional) ∧
        Guarded RegisteringCompiler.step (KeepsSeparated additional) RegisteringCompiler.created
          calls := by
  rcases @exists_run _ _ RegisteringCompiler.step (fun _ _ => True) (fun _ => True)
    (fun compiler made _ _ => ⟨compiler.call made, rfl, trivial⟩) RegisteringCompiler.created calls
    trivial (guarded_true _ _ _) with ⟨final, runEq, _⟩
  have preserved : ∀ compiler made next, HoldsRegistered compiler →
      CompilesInOrder additional compiler → KeepsSeparated additional compiler made →
        RegisteringCompiler.step compiler made = some next → HoldsRegistered next := by
    rintro compiler made next holds _ separated ⟨rfl⟩
    exact holds.call separated
  have exact_step : ∀ compiler made next, HoldsRegistered compiler →
      CompilesInOrder additional compiler → RegisteringCompiler.step compiler made = some next →
        (CompilesInOrder additional next ↔ KeepsSeparated additional compiler made) := by
    rintro compiler made next holds _ ⟨rfl⟩
    constructor
    · exact CompilesInOrder.separated
    · intro separated
      exact separated.compilesInOrder (holds.call separated)
  constructor
  · intro throughout
    have start := throughout [] calls RegisteringCompiler.created rfl rfl
    refine ⟨start.separated, ?_⟩
    exact (kept_throughout_iff_guarded preserved exact_step holdsRegistered_created start
      runEq).mp throughout
  · rintro ⟨separated, guarded⟩
    have start : CompilesInOrder additional RegisteringCompiler.created :=
      Separated.compilesInOrder separated holdsRegistered_created
    exact (kept_throughout_iff_guarded preserved exact_step holdsRegistered_created start
      runEq).mpr guarded

/-- With the preprocessor that generates bindings, which has the normal priority, the built-in one
is run first: the number of a level below zero is higher. -/
theorem reflection_runs_first :
    ∃ compiler, run RegisteringCompiler.step RegisteringCompiler.created
        [.addPreprocessor autobinder] = some compiler ∧
      compiler.preprocessors.elements = [builtinReflection, autobinder] ∧
      ¬CompilesInOrder [] compiler := by
  exists RegisteringCompiler.created.addPreprocessor autobinder
  constructor
  · rfl
  · constructor
    · decide
    · intro inOrder
      exact absurd inOrder.separated (by decide)

end VoxelEngine.Graphics
