import FeatureFlags.Json.Token

namespace FeatureFlags.Json

/-!
# Documents

A JSON text as a tree, as far as the text goes. Where a text breaks off or is
misspelled the tree is cut, and the cut says what a reader reports who reaches
it. A reader who wants a certain shape may stop before, with a cause of its own,
so reading is a walk over this tree and not part of building it.
-/

/-- How the items of an array end. -/
inductive ArrayEnd where
  | closed
  | missingSeparator
  | danglingComma
  | endOfTextAfterItem
  | endOfTextAfterComma

/-- How the entries of an object end. -/
inductive ObjectEnd where
  | closed
  | missingSeparator
  | danglingComma
  | keyNotText
  | brokenKey (reading skipping : Fault)
  | endOfTextAfterEntry
  | endOfTextAfterComma

/--
A value as far as its text goes. Numbers and texts may be spelled correctly and
still have no value, which concerns only those who read them.
-/
inductive Node where
  | null
  | bool (value : Bool)
  | number (value : Except Fault Tree)
  | text (value : Except Fault String)
  | array (items : List Node) (ending : ArrayEnd)
  | object (entries : List (Except Fault String × Node)) (ending : ObjectEnd)
  | cut (reading skipping : Fault)

namespace ArrayEnd

/-- What a reader reports who looks for another item; nothing at a closing bracket. -/
def onRead? : ArrayEnd → Option Fault
  | .closed => none
  | .missingSeparator => some .expectedListSeparator
  | .danglingComma => some .trailingComma
  | .endOfTextAfterItem => some .endInList
  | .endOfTextAfterComma => some .endInValue

/-- What one reports who skips the array. -/
def onSkip? : ArrayEnd → Option Fault
  | .closed => none
  | .missingSeparator => some .expectedListSeparator
  | .danglingComma => some .expectedValue
  | .endOfTextAfterItem => some .endInList
  | .endOfTextAfterComma => some .endInValue

/-- What a reader reports who wants no more items. -/
def onClose? : ArrayEnd → Option Fault
  | .closed => none
  | .missingSeparator => some .trailingCharacters
  | .danglingComma => some .trailingComma
  | .endOfTextAfterItem => some .endInList
  | .endOfTextAfterComma => some .trailingCharacters

end ArrayEnd

namespace ObjectEnd

/-- What a reader reports who looks for another entry; nothing at a closing brace. -/
def onRead? : ObjectEnd → Option Fault
  | .closed => none
  | .missingSeparator => some .expectedObjectSeparator
  | .danglingComma => some .trailingComma
  | .keyNotText => some .keyNotText
  | .brokenKey reading _ => some reading
  | .endOfTextAfterEntry => some .endInObject
  | .endOfTextAfterComma => some .endInValue

/-- What one reports who skips the object. -/
def onSkip? : ObjectEnd → Option Fault
  | .closed => none
  | .missingSeparator => some .expectedObjectSeparator
  | .danglingComma => some .keyNotText
  | .keyNotText => some .keyNotText
  | .brokenKey _ skipping => some skipping
  | .endOfTextAfterEntry => some .endInObject
  | .endOfTextAfterComma => some .endInObject

end ObjectEnd

/-- A container that is being read, waiting for a value; what came before is reversed. -/
inductive Frame where
  | array (before : List Node)
  | object (before : List (Except Fault String × Node)) (key : Except Fault String)

/-- Where in a text the reading of its tokens stands. -/
inductive Builder where
  | value (frames : List Frame)
  | firstItem (frames : List Frame)
  | afterItem (before : List Node) (frames : List Frame)
  | nextItem (before : List Node) (frames : List Frame)
  | firstEntry (frames : List Frame)
  | colon
      (before : List (Except Fault String × Node))
      (key : Except Fault String)
      (frames : List Frame)
  | afterEntry (before : List (Except Fault String × Node)) (frames : List Frame)
  | nextEntry (before : List (Except Fault String × Node)) (frames : List Frame)
  | complete (root : Node)
  | stopped (root : Node) (surplus : Bool)

/-- A whole text: its value, and whether anything but blanks follows it. -/
structure Document where
  root : Node
  surplus : Bool

namespace Frame

/-- The container with a last value put in. -/
def close
    (last : Node) :
    Frame → Node
  | .array before => .array (last :: before).reverse .closed
  | .object before key => .object ((key, last) :: before).reverse .closed

end Frame

namespace Builder

/-- Put a whole value where one is waited for. -/
def put
    (node : Node) :
    List Frame → Builder
  | [] => .complete node
  | .array before :: frames => .afterItem (node :: before) frames
  | .object before key :: frames => .afterEntry ((key, node) :: before) frames

/-- Put a cut value and give up. -/
def stop
    (node : Node)
    (frames : List Frame) :
    Builder :=
  .stopped (frames.foldl (fun inner frame => frame.close inner) node) false

/-- Give up with the same cause for readers and for those who skip. -/
def stopWith
    (fault : Fault)
    (frames : List Frame) :
    Builder :=
  stop (.cut fault fault) frames

/-- Read the token where a value is to begin. -/
def beginValue
    (frames : List Frame) :
    Token → Builder
  | .openArray => .firstItem frames
  | .openObject => .firstEntry frames
  | .null => put .null frames
  | .bool truth => put (.bool truth) frames
  | .number number => put (.number number) frames
  | .text content => put (.text content) frames
  | .brokenScalar reading skipping => stop (.cut reading skipping) frames
  | .brokenText reading skipping => stop (.cut reading skipping) frames
  | _ => stopWith .expectedValue frames

/-- Read the token where a key is to begin. -/
def beginEntry
    (before : List (Except Fault String × Node))
    (frames : List Frame) :
    Token → Builder
  | .text key => .colon before key frames
  | .brokenText reading skipping =>
      stop (.object before.reverse (.brokenKey reading skipping)) frames
  | _ => stop (.object before.reverse .keyNotText) frames

/-- Read one token. -/
def step : Builder → Token → Builder
  | .value frames, token => beginValue frames token
  | .firstItem frames, .closeArray => put (.array [] .closed) frames
  | .firstItem frames, token => beginValue (.array [] :: frames) token
  | .afterItem before frames, .comma => .nextItem before frames
  | .afterItem before frames, .closeArray => put (.array before.reverse .closed) frames
  | .afterItem before frames, _ => stop (.array before.reverse .missingSeparator) frames
  | .nextItem before frames, .closeArray => stop (.array before.reverse .danglingComma) frames
  | .nextItem before frames, token => beginValue (.array before :: frames) token
  | .firstEntry frames, .closeObject => put (.object [] .closed) frames
  | .firstEntry frames, token => beginEntry [] frames token
  | .colon before key frames, .colon => .value (.object before key :: frames)
  | .colon before key frames, _ => stopWith .expectedColon (.object before key :: frames)
  | .afterEntry before frames, .comma => .nextEntry before frames
  | .afterEntry before frames, .closeObject => put (.object before.reverse .closed) frames
  | .afterEntry before frames, _ => stop (.object before.reverse .missingSeparator) frames
  | .nextEntry before frames, .closeObject =>
      stop (.object before.reverse .danglingComma) frames
  | .nextEntry before frames, token => beginEntry before frames token
  | .complete root, _ => .stopped root true
  | .stopped root surplus, _ => .stopped root surplus

/-- What is to be said when no token is left. -/
def atEnd : Builder → Builder
  | .value frames => stopWith .endInValue frames
  | .firstItem frames => stop (.array [] .endOfTextAfterItem) frames
  | .afterItem before frames => stop (.array before.reverse .endOfTextAfterItem) frames
  | .nextItem before frames => stop (.array before.reverse .endOfTextAfterComma) frames
  | .firstEntry frames => stop (.object [] .endOfTextAfterEntry) frames
  | .colon before key frames => stopWith .endInObject (.object before key :: frames)
  | .afterEntry before frames => stop (.object before.reverse .endOfTextAfterEntry) frames
  | .nextEntry before frames => stop (.object before.reverse .endOfTextAfterComma) frames
  | builder => builder

/-- The document of a builder at the end of its text. -/
def document (builder : Builder) : Document :=
  match builder.atEnd with
  | .stopped root surplus => ⟨root, surplus⟩
  | .complete root => ⟨root, false⟩
  | _ => ⟨.cut .endInValue .endInValue, false⟩

end Builder

namespace Document

/-- The document of a text. -/
def ofText (text : String) : Document :=
  ((tokens text.toList).foldl Builder.step (.value [])).document

end Document

end FeatureFlags.Json
