import VoxelEngine.Data.Characters
import VoxelEngine.Data.HashTable
import VoxelEngine.Transition.Loop

/-!
# The autobinding preprocessor

A shader uses the words `UBO`, `SSBO` and `CONSTANT` in place of layout qualifiers.  The
preprocessor moves a cursor over the source and edits the source behind the cursor, with numbers
that it keeps in the context of all stages of a shader.
-/

namespace VoxelEngine.Graphics.Autobinding

open VoxelEngine.Data VoxelEngine.Transition

/-- The tokens other than `NO_TOKEN`, which is the absence of these. -/
inductive Keyword where
  | ubo
  | ssbo
  | constant
  deriving DecidableEq

def Keyword.text : Keyword → List Char
  | ubo => "UBO".toList
  | ssbo => "SSBO".toList
  | constant => "CONSTANT".toList

/-- The number that a token is in the source: the length of its word, and one for `NO_TOKEN`. -/
def tokenValue : Option Keyword → Nat
  | none => 1
  | some .ubo => 3
  | some .ssbo => 4
  | some .constant => 8

/-- Uniform and storage blocks are counted jointly, constants separately. -/
inductive Counter where
  | uniform
  | constant
  deriving DecidableEq

def Keyword.counter : Keyword → Counter
  | ubo => .uniform
  | ssbo => .uniform
  | constant => .constant

/-- What the stages of a shader share. -/
structure AutobindingData where
  uboBindings : HashTable (List Char) UInt32
  ssboBindings : HashTable (List Char) UInt32
  constantBindings : HashTable (List Char) UInt32
  uniformCount : Nat
  constantCount : Nat

namespace AutobindingData

def initial : AutobindingData :=
  ⟨.empty, .empty, .empty, 0, 0⟩

/-- `binding_map`. -/
def bindingMap (data : AutobindingData) : Keyword → HashTable (List Char) UInt32
  | .ubo => data.uboBindings
  | .ssbo => data.ssboBindings
  | .constant => data.constantBindings

def count (data : AutobindingData) : Counter → Nat
  | .uniform => data.uniformCount
  | .constant => data.constantCount

/-- Take the next number for a name.  The number is narrowed when it is put into the map. -/
def bindNext (data : AutobindingData) (keyword : Keyword) (name : List Char) : AutobindingData :=
  match keyword with
  | .ubo =>
      { data with
        uboBindings := data.uboBindings.emplace (name, UInt32.ofNat data.uniformCount)
        uniformCount := data.uniformCount + 1 }
  | .ssbo =>
      { data with
        ssboBindings := data.ssboBindings.emplace (name, UInt32.ofNat data.uniformCount)
        uniformCount := data.uniformCount + 1 }
  | .constant =>
      { data with
        constantBindings := data.constantBindings.emplace (name, UInt32.ofNat data.constantCount)
        constantCount := data.constantCount + 1 }

/-- The binding of a name, and what is shared afterwards. -/
def bind (data : AutobindingData) (keyword : Keyword) (name : List Char) :
    Nat × AutobindingData :=
  match (data.bindingMap keyword).find name with
  | some binding => (binding.toNat, data)
  | none => (data.count keyword.counter, data.bindNext keyword name)

end AutobindingData

/-- The layout in front of its number. -/
def Keyword.layoutStart : Keyword → List Char
  | ubo => "layout(std140, binding = ".toList
  | ssbo => "layout(std430, binding = ".toList
  | constant => "layout(constant_id = ".toList

/-- The layout behind its number. -/
def Keyword.layoutEnd : Keyword → List Char
  | ubo => ") uniform ".toList
  | ssbo => ") buffer  ".toList
  | constant => ") const ".toList

/-- `replacement_string`. -/
def Keyword.replacement (keyword : Keyword) (binding : Nat) : List Char :=
  keyword.layoutStart ++ Nat.toDigits 10 binding ++ keyword.layoutEnd

/-- The text behind leading whitespace, and the position where it begins. -/
def eatWhitespace (text : List Char) (counter : Nat) : List Char × Nat :=
  (text.dropWhile isSpace, counter + (text.takeWhile isSpace).length)

/-- The word that a text begins with, and the position behind it. -/
def eatWord (text : List Char) (counter : Nat) : List Char × Nat :=
  (text.takeWhile (!isSpace ·), counter + (text.takeWhile (!isSpace ·)).length)

/-- The token that a text begins with.  The last assignment counts. -/
def beginToken (remaining : List Char) : Option Keyword :=
  if Keyword.constant.text <+: remaining then some .constant
  else if Keyword.ssbo.text <+: remaining then some .ssbo
  else if Keyword.ubo.text <+: remaining then some .ubo
  else none

/-- The variables of the preprocessor. -/
structure Scanner where
  src : List Char
  currentToken : Option Keyword
  directiveStart : Nat
  currentChar : Nat
  data : AutobindingData

namespace Scanner

def initial (data : AutobindingData) (src : List Char) : Scanner :=
  ⟨src, none, 0, 0, data⟩

/-- `replace_before_current`. -/
def replaceBeforeCurrent (scanner : Scanner) (start length : Nat) (content : List Char) :
    Scanner :=
  { scanner with
    src := scanner.src.take start ++ content ++ scanner.src.drop (start + length)
    currentChar := scanner.currentChar - length + content.length }

/-- Begin a new token behind the whitespace. -/
def begin (scanner : Scanner) : Scanner :=
  let remaining :=
    eatWhitespace (scanner.src.drop scanner.currentChar) scanner.currentChar
  { scanner with
    currentToken := beginToken remaining.1
    directiveStart := remaining.2
    currentChar := remaining.2 + tokenValue (beginToken remaining.1) }

/-- Read the name behind a token and put the layout in the place of the token. -/
def finish (scanner : Scanner) (keyword : Keyword) : Scanner :=
  let remaining :=
    eatWhitespace (scanner.src.drop scanner.currentChar) scanner.currentChar
  let currentName := eatWord remaining.1 remaining.2
  let bound := scanner.data.bind keyword currentName.1
  let named := { scanner with currentChar := currentName.2, data := bound.2 }
  { named.replaceBeforeCurrent scanner.directiveStart (tokenValue (some keyword))
      (keyword.replacement bound.1) with
    currentToken := none }

/-- One round of the loop. -/
def round (scanner : Scanner) : Round Scanner (List Char × AutobindingData) :=
  if scanner.currentChar < scanner.src.length then
    match scanner.currentToken with
    | none => .again scanner.begin
    | some keyword => .again (scanner.finish keyword)
  else .done (scanner.src, scanner.data)

end Scanner

/-- The sources of the stages of a shader are preprocessed one after the other. -/
inductive Preprocesses : AutobindingData → List (List Char) → List (List Char) → Prop where
  | nil (data : AutobindingData) : Preprocesses data [] []
  | cons {data next : AutobindingData} {src output : List Char}
      {sources outputs : List (List Char)}
      (returns : Returns Scanner.round (Scanner.initial data src) (output, next))
      (others : Preprocesses next sources outputs) :
      Preprocesses data (src :: sources) (output :: outputs)

/-- The results are determined by the sources. -/
theorem Preprocesses.unique {data : AutobindingData} {sources first second : List (List Char)}
    (firstRun : Preprocesses data sources first)
    (secondRun : Preprocesses data sources second) : first = second := by
  induction firstRun generalizing second with
  | nil data =>
      cases secondRun
      rfl
  | cons returns others ih =>
      cases secondRun with
      | cons otherReturns otherOthers =>
          cases returns.unique otherReturns
          rw [ih otherOthers]

end VoxelEngine.Graphics.Autobinding
