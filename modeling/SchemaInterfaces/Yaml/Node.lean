import SchemaInterfaces.Yaml.Token

/-!
# YAML nodes

The tree that the tokens of a document describe. Anchors are numbered, and aliases lead to numbers;
a number leads to the last node that has it. An anchor is given as its number how many different
names were anchored before it, so that anchoring a name a second time may make a number occur
twice.
-/

namespace SchemaInterfaces.Yaml

/-- A node: where it begins, its tag, its number if it is anchored, and its content. -/
inductive Node where
  | scalar (mark : Mark) (tag : Option String) (anchor : Option Nat) (style : Style)
    (content : String)
  | sequence (mark : Mark) (tag : Option String) (anchor : Option Nat) (items : List Node)
  | mapping (mark : Mark) (tag : Option String) (anchor : Option Nat)
    (entries : List (Node × Node))
  | aliasTo (mark : Mark) (anchor : Nat)

namespace Node

def mark : Node → Mark
  | scalar mark _ _ _ _ | sequence mark _ _ _ | mapping mark _ _ _ | aliasTo mark _ => mark

/-- The node that stands where nothing is written. -/
def missing (mark : Mark) : Node :=
  scalar mark none none .plain ""

end Node

/-- What is known while the nodes of a document are read: the names that are anchored, with the
number of the last anchor of each name, and what the handles of tags stand for. -/
structure Scene where
  anchors : List (String × Nat) := []
  handles : List (String × String)

namespace Scene

/-- The number of a new anchor, and the scene with it. -/
def addAnchor (scene : Scene) (name : String) : Nat × Scene :=
  let number := scene.anchors.length
  (number, { scene with
    anchors := (name, number) :: scene.anchors.filter fun anchor => anchor.1 != name })

/-- The number that a name is anchored under. -/
def anchor? (scene : Scene) (name : String) : Option Nat :=
  (scene.anchors.find? fun anchor => anchor.1 == name).map (·.2)

/-- The tag that a written tag stands for. -/
def tag? (scene : Scene) (text : TagText) : Option String :=
  if text.handle.isEmpty then some text.suffix
  else
    (scene.handles.find? fun handle => handle.1 == text.handle).map fun handle =>
      handle.2 ++ text.suffix

end Scene

/-- The properties in front of the content of a node. -/
structure Properties where
  start : Mark
  anchor : Option String := none
  tag : Option TagText := none

/-- The properties in front of the given tokens, and the rest of the tokens. -/
def propertiesOf (start : Mark) : List Placed → Properties × List Placed
  | ⟨.anchor name, _, _⟩ :: ⟨.tag text, _, _⟩ :: rest => (⟨start, some name, some text⟩, rest)
  | ⟨.tag text, _, _⟩ :: ⟨.anchor name, _, _⟩ :: rest => (⟨start, some name, some text⟩, rest)
  | ⟨.anchor name, _, _⟩ :: rest => (⟨start, some name, none⟩, rest)
  | ⟨.tag text, _, _⟩ :: rest => (⟨start, none, some text⟩, rest)
  | rest => (⟨start, none, none⟩, rest)

theorem length_propertiesOf_le (start : Mark) (s : List Placed) :
    (propertiesOf start s).2.length ≤ s.length := by
  unfold propertiesOf
  split <;> simp only [List.length_cons] <;> omega

/-- What was read from the front of the tokens `s`, what is known after it, and the rest. -/
structure Part (α : Type) (s : List Placed) where
  value : α
  scene : Scene
  rest : List Placed
  notLonger : rest.length ≤ s.length

namespace Part

variable {α β : Type} {s : List Placed}

/-- The part that stands where nothing is written. -/
def missing (scene : Scene) (mark : Mark) (s : List Placed) : Part Node s :=
  ⟨.missing mark, scene, s, Nat.le_refl _⟩

/-- The same rest after another value. -/
def map (f : α → β) (part : Part α s) : Part β s :=
  ⟨f part.value, part.scene, part.rest, part.notLonger⟩

/-- What was read from a rest was read from the whole. -/
def within {rest : List Placed} (part : Part α rest) (h : rest.length ≤ s.length) : Part α s :=
  ⟨part.value, part.scene, part.rest, Nat.le_trans part.notLonger h⟩

end Part

/-- Where a node may stand. -/
inductive Place where
  | document
  | blockItem
  | indentlessItem
  | blockEntry
  | flowItem
  | flowEntry
  deriving DecidableEq

namespace Place

/-- Whether a place is inside a flow collection. -/
def inFlow : Place → Bool
  | flowItem | flowEntry => true
  | document | blockItem | indentlessItem | blockEntry => false

/-- Whether a token in a place means that nothing is written there. -/
def isLeftBy : Place → Token → Bool
  | blockItem, .blockEntry | blockItem, .blockEnd => true
  | indentlessItem, .blockEntry | indentlessItem, .blockEnd => true
  | indentlessItem, .key | indentlessItem, .value => true
  | blockEntry, .key | blockEntry, .value | blockEntry, .blockEnd => true
  | flowItem, .value | flowItem, .flowEntry | flowItem, .flowSequenceEnd => true
  | flowEntry, .value | flowEntry, .flowEntry | flowEntry, .flowMappingEnd => true
  | document, .directive _ | document, .documentStart | document, .documentEnd => true
  | _, _ => false

/-- Whether nothing is written in a place in front of the given tokens. -/
def isLeft (place : Place) : List Placed → Bool
  | token :: _ => place.isLeftBy token.token
  | [] => place == document

end Place

/-- Where the next token stands, or the last one ended. -/
def nextMark (before : Mark) : List Placed → Mark
  | token :: _ => token.start
  | [] => before

/-- The token that a collection begins with, as far as it opens one in the given place. -/
inductive Opening where
  | blockSequence
  | blockMapping
  | indentlessSequence
  | flowSequence
  | flowMapping

/-- The collection that a token opens in a place. -/
def Place.opening? (place : Place) : Token → Option Opening
  | .flowSequence => some .flowSequence
  | .flowMapping => some .flowMapping
  | .blockSequence => if place.inFlow then none else some .blockSequence
  | .blockMapping => if place.inFlow then none else some .blockMapping
  | .blockEntry => if place = .blockEntry then some .indentlessSequence else none
  | _ => none

mutual

/-- Reads a node. It may be an alias, or be nothing but properties, but not be missing. -/
def readNode (place : Place) (scene : Scene) (s : List Placed) : Option (Part Node s) := do
  let front := propertiesOf (nextMark {} s) s
  have notLonger : front.2.length ≤ s.length := length_propertiesOf_le ..
  let tag ←
    match front.1.tag with
    | some text => (scene.tag? text).map some
    | none => some none
  let (anchor, inner) :=
    match front.1.anchor with
    | some name => (scene.addAnchor name).map some id
    | none => (none, scene)
  let bare := front.1.tag.isNone && front.1.anchor.isNone
  let empty : Part Node s :=
    ⟨.scalar front.1.start tag anchor .plain "", inner, front.2, notLonger⟩
  match hr : front.2 with
  | [] => if bare then none else some empty
  | token :: after =>
    have shorter : after.length < s.length := by
      rw [hr, List.length_cons] at notLonger; omega
    match token.token with
    | .aliasTo name =>
      if bare then
        let number ← scene.anchor? name
        return ⟨.aliasTo token.start number, scene, after, Nat.le_of_lt shorter⟩
      else
        -- An alias has no properties, so these belong to a node of their own.
        return empty
    | .scalar style content =>
      return ⟨.scalar front.1.start tag anchor style content, inner, after,
        Nat.le_of_lt shorter⟩
    | other =>
      match place.opening? other with
      | some .flowSequence =>
        let items ← readFlowItems inner after
        return (items.map (.sequence front.1.start tag anchor)).within (Nat.le_of_lt shorter)
      | some .flowMapping =>
        let entries ← readFlowEntries inner after
        return (entries.map (.mapping front.1.start tag anchor)).within (Nat.le_of_lt shorter)
      | some .blockSequence =>
        let items ← readBlockItems inner after
        return (items.map (.sequence front.1.start tag anchor)).within (Nat.le_of_lt shorter)
      | some .blockMapping =>
        let entries ← readBlockEntries inner after
        return (entries.map (.mapping front.1.start tag anchor)).within (Nat.le_of_lt shorter)
      | some .indentlessSequence =>
        let items ← readIndentlessItems inner token.stop after
        return (items.map (.sequence front.1.start tag anchor)).within (Nat.le_of_lt shorter)
      | none => if bare then none else some empty
termination_by 3 * s.length
decreasing_by all_goals omega

/-- Reads what is written in a place after a token that ends at `stop`, if anything is. -/
def readPart (place : Place) (scene : Scene) (stop : Mark) (s : List Placed) :
    Option (Part Node s) :=
  if place.isLeft s then some (.missing scene (if place.inFlow then nextMark stop s else stop) s)
  else readNode place scene s
termination_by 3 * s.length + 1
decreasing_by exact Nat.lt_succ_self _

/-- Reads the value of an entry: what is written after the token in front of a value, if there is
one. -/
def readValue (place : Place) (scene : Scene) (stop : Mark) (s : List Placed) :
    Option (Part Node s) :=
  match s with
  | ⟨.value, _, stop⟩ :: rest =>
    (readPart place scene stop rest).map (·.within (Nat.le_succ _))
  | s => some (.missing scene (nextMark stop s) s)
termination_by 3 * s.length
decreasing_by simp only [List.length_cons]; omega

/-- Reads the items of a block sequence up to and with its end. -/
def readBlockItems (scene : Scene) (s : List Placed) : Option (Part (List Node) s) :=
  match s with
  | ⟨.blockEnd, _, _⟩ :: rest => some ⟨[], scene, rest, Nat.le_succ _⟩
  | ⟨.blockEntry, _, stop⟩ :: rest => do
    let item ← readPart .blockItem scene stop rest
    have shorter : item.rest.length < rest.length + 1 := Nat.lt_succ_of_le item.notLonger
    let others ← readBlockItems item.scene item.rest
    return (others.map (item.value :: ·)).within (Nat.le_of_lt shorter)
  | _ => none
termination_by 3 * s.length
decreasing_by all_goals simp only [List.length_cons]; omega

/-- Reads the items of a sequence that is not indented in its mapping, after the token in front of
its first item. -/
def readIndentlessItems (scene : Scene) (stop : Mark) (s : List Placed) :
    Option (Part (List Node) s) := do
  let item ← readPart .indentlessItem scene stop s
  match hr : item.rest with
  | ⟨.blockEntry, _, stop⟩ :: rest =>
    have shorter : rest.length < s.length := by
      have := item.notLonger; rw [hr, List.length_cons] at this; omega
    let others ← readIndentlessItems item.scene stop rest
    return (others.map (item.value :: ·)).within (Nat.le_of_lt shorter)
  | _ => return item.map fun node => [node]
termination_by 3 * s.length + 2
decreasing_by all_goals omega

/-- Reads the entries of a block mapping up to and with its end. -/
def readBlockEntries (scene : Scene) (s : List Placed) : Option (Part (List (Node × Node)) s) :=
  match s with
  | ⟨.blockEnd, _, _⟩ :: rest => some ⟨[], scene, rest, Nat.le_succ _⟩
  | ⟨.key, _, stop⟩ :: rest => do
    let key ← readPart .blockEntry scene stop rest
    have keyShorter : key.rest.length < rest.length + 1 := Nat.lt_succ_of_le key.notLonger
    let value ← readValue .blockEntry key.scene stop key.rest
    have shorter : value.rest.length < rest.length + 1 :=
      Nat.lt_of_le_of_lt value.notLonger keyShorter
    let others ← readBlockEntries value.scene value.rest
    return (others.map ((key.value, value.value) :: ·)).within (Nat.le_of_lt shorter)
  | _ => none
termination_by 3 * s.length
decreasing_by all_goals simp only [List.length_cons]; omega

/-- Reads the key of an entry that is an item of a flow sequence. If it is missing, the token that
shows this is passed over. -/
def readFlowKey (scene : Scene) (s : List Placed) : Option (Part Node s) :=
  match s with
  | token :: rest =>
    if Place.flowItem.isLeftBy token.token then
      some ⟨.missing token.stop, scene, rest, Nat.le_succ _⟩
    else readNode .flowItem scene (token :: rest)
  | [] => none
termination_by 3 * s.length + 1
decreasing_by exact Nat.lt_succ_self _

/-- Reads an item of a flow sequence; it may be a single entry of a mapping. -/
def readFlowItem (scene : Scene) (s : List Placed) : Option (Part Node s) :=
  match s with
  | ⟨.key, start, stop⟩ :: rest => do
    let key ← readFlowKey scene rest
    have shorter : key.rest.length < rest.length + 1 := Nat.lt_succ_of_le key.notLonger
    let value ← readValue .flowItem key.scene stop key.rest
    return (value.map fun value =>
      Node.mapping start none none [(key.value, value)]).within (Nat.le_of_lt shorter)
  | s => readNode .flowItem scene s
termination_by 3 * s.length + 1
decreasing_by
  · simp only [List.length_cons]; omega
  · simp only [List.length_cons]; omega
  · exact Nat.lt_succ_self _

/-- Reads the items of a flow sequence up to and with its end. -/
def readFlowItems (scene : Scene) (s : List Placed) : Option (Part (List Node) s) :=
  match s with
  | ⟨.flowSequenceEnd, _, _⟩ :: rest => some ⟨[], scene, rest, Nat.le_succ _⟩
  | s => do
    let item ← readFlowItem scene s
    have notLonger := item.notLonger
    let others ← readMoreFlowItems item.scene item.rest
    return (others.map (item.value :: ·)).within notLonger
termination_by 3 * s.length + 2
decreasing_by
  · exact Nat.lt_succ_self _
  · omega

/-- Reads the items of a flow sequence after the first one, up to and with its end. -/
def readMoreFlowItems (scene : Scene) (s : List Placed) : Option (Part (List Node) s) :=
  match s with
  | ⟨.flowSequenceEnd, _, _⟩ :: rest => some ⟨[], scene, rest, Nat.le_succ _⟩
  | ⟨.flowEntry, _, _⟩ :: rest =>
    (readFlowItems scene rest).map (·.within (Nat.le_succ _))
  | _ => none
termination_by 3 * s.length + 1
decreasing_by simp only [List.length_cons]; omega

/-- Reads an entry of a flow mapping. One that is not announced as a key has no value. -/
def readFlowEntry (scene : Scene) (s : List Placed) : Option (Part (Node × Node) s) :=
  match s with
  | ⟨.key, _, stop⟩ :: rest => do
    let key ← readPart .flowEntry scene stop rest
    have shorter : key.rest.length < rest.length + 1 := Nat.lt_succ_of_le key.notLonger
    let value ← readValue .flowEntry key.scene stop key.rest
    return (value.map fun value => (key.value, value)).within (Nat.le_of_lt shorter)
  | s => do
    let key ← readNode .flowEntry scene s
    return key.map fun node => (node, .missing (nextMark node.mark key.rest))
termination_by 3 * s.length + 1
decreasing_by
  · simp only [List.length_cons]; omega
  · simp only [List.length_cons]; omega
  · exact Nat.lt_succ_self _

/-- Reads the entries of a flow mapping up to and with its end. -/
def readFlowEntries (scene : Scene) (s : List Placed) : Option (Part (List (Node × Node)) s) :=
  match s with
  | ⟨.flowMappingEnd, _, _⟩ :: rest => some ⟨[], scene, rest, Nat.le_succ _⟩
  | s => do
    let entry ← readFlowEntry scene s
    have notLonger := entry.notLonger
    let others ← readMoreFlowEntries entry.scene entry.rest
    return (others.map (entry.value :: ·)).within notLonger
termination_by 3 * s.length + 2
decreasing_by
  · exact Nat.lt_succ_self _
  · omega

/-- Reads the entries of a flow mapping after the first one, up to and with its end. -/
def readMoreFlowEntries (scene : Scene) (s : List Placed) :
    Option (Part (List (Node × Node)) s) :=
  match s with
  | ⟨.flowMappingEnd, _, _⟩ :: rest => some ⟨[], scene, rest, Nat.le_succ _⟩
  | ⟨.flowEntry, _, _⟩ :: rest =>
    (readFlowEntries scene rest).map (·.within (Nat.le_succ _))
  | _ => none
termination_by 3 * s.length + 1
decreasing_by simp only [List.length_cons]; omega

end

end SchemaInterfaces.Yaml
