import SchemaInterfaces.Yaml.Value

/-!
# YAML documents

A text as one document. A text without a document is well formed too; several documents in a text
are not.
-/

namespace SchemaInterfaces.Yaml

/-- The node of a text's document, if there is one. -/
structure Document where
  root : Option Node

/-- What the handles of tags stand for when nothing is said about them. -/
def defaultHandles : List (String × String) :=
  [("!", "!"), ("!!", coreTag "")]

/-- Reads the directives in front of a document: what they say about handles, whether they name a
version, and the rest. -/
def readDirectives (handles : List (String × String)) (versioned : Bool) :
    List Placed → Option (List (String × String) × List Placed)
  | ⟨.directive (.version major minor), _, _⟩ :: rest =>
    if versioned || major != 1 || (minor != 1 && minor != 2) then none
    else readDirectives handles true rest
  | ⟨.directive (.tag handle start), _, _⟩ :: rest =>
    if handles.any fun old => old.1 == handle then none
    else readDirectives (handles ++ [(handle, start)]) versioned rest
  | rest => some (handles, rest)

/-- Whether only marks of a document's end are left. -/
def onlyEnds (s : List Placed) : Bool :=
  s.all fun token =>
    match token.token with
    | .documentEnd => true
    | _ => false

/-- The document that tokens make up. -/
def Document.ofTokens? (tokens : List Placed) : Option Document := do
  let (handles, rest) ← readDirectives [] false tokens
  let scene : Scene := { handles := handles ++ defaultHandles }
  match rest with
  | [] => if tokens.isEmpty then return ⟨none⟩ else none
  | ⟨.documentStart, _, stop⟩ :: rest =>
    let root ← readPart .document scene stop rest
    if onlyEnds root.rest then return ⟨some root.value⟩ else none
  | rest =>
    if rest.length = tokens.length then
      let root ← readNode .document scene rest
      if onlyEnds root.rest then return ⟨some root.value⟩ else none
    else none

/-- The document that a text is. -/
def Document.ofText? (text : String) : Option Document := do
  Document.ofTokens? (← Token.ofText? text)

namespace Node

mutual

/-- The anchored nodes of a tree with their numbers, in the order of the text. -/
def anchored : Node → List (Nat × Node)
  | node@(scalar _ _ anchor _ _) => (anchor.map (·, node)).toList
  | node@(sequence _ _ anchor items) => (anchor.map (·, node)).toList ++ anchoredItems items
  | node@(mapping _ _ anchor entries) =>
    (anchor.map (·, node)).toList ++ anchoredEntries entries
  | aliasTo _ _ => []

def anchoredItems : List Node → List (Nat × Node)
  | [] => []
  | item :: others => item.anchored ++ anchoredItems others

def anchoredEntries : List (Node × Node) → List (Nat × Node)
  | [] => []
  | (key, value) :: others => key.anchored ++ value.anchored ++ anchoredEntries others

end

end Node

/-- The node that a number leads to. -/
def Document.anchored? (document : Document) (number : Nat) : Option Node :=
  (((document.root.map Node.anchored).getD []).reverse.find? fun entry => entry.1 == number).map
    (·.2)

/-- The node itself, or the one that an alias leads to. -/
def Document.follow (document : Document) (node : Node) : Node :=
  match node with
  | .aliasTo _ number => (document.anchored? number).getD node
  | _ => node

/-- A value as a tree, with all aliases followed. -/
inductive Value where
  | scalar (value : ScalarValue)
  | sequence (items : List Value)
  | mapping (entries : List (Value × Value))
  | tagged (name : String) (value : Value)

namespace Value

mutual

/-- Whether two values are the same. The order of a mapping's entries does not matter. -/
def same : Value → Value → Bool
  | scalar a, scalar b => a.same b
  | sequence as, sequence bs => sameItems as bs
  | mapping as, mapping bs => as.length == bs.length && hasEntries bs as
  | tagged s a, tagged t b => s == t && same a b
  | _, _ => false

def sameItems : List Value → List Value → Bool
  | [], [] => true
  | a :: as, b :: bs => same a b && sameItems as bs
  | _, _ => false

/-- Whether all of the given entries are among the entries `all`. -/
def hasEntries (all : List (Value × Value)) : List (Value × Value) → Bool
  | [] => true
  | (key, value) :: others =>
    all.any (fun entry => same key entry.1 && same value entry.2) && hasEntries all others

end

/-- Whether no two keys of a mapping are the same. -/
def distinct : List (Value × Value) → Bool
  | [] => true
  | (key, _) :: others => others.all (fun entry => !same key entry.1) && distinct others

end Value

/-- How deeply collections may nest in a value. -/
def nestingLimit : Nat :=
  128

/-- A value under the name that a tag gives to it, if the tag gives one. -/
def Value.under (tag : Option String) (value : Value) : Value :=
  match tagName? tag with
  | some name => .tagged name value
  | none => value

/-- Something made while aliases were followed, and how many more may be followed after it, of
those that might have been before it. -/
structure Followed (α : Type) (hops : Nat) where
  value : α
  left : Nat
  notMore : left ≤ hops

mutual

/-- The value of a node in which collections nest at most `depth` deep; no more than `hops` aliases
are followed. Two keys of a mapping may not have the same value. -/
def valueOf (document : Document) (depth hops : Nat) (node : Node) :
    Option (Followed Value hops) :=
  match node with
  | .aliasTo _ number =>
    match hops with
    | 0 => none
    | hops + 1 =>
      match document.anchored? number with
      | some target => do
        let found ← valueOf document depth hops target
        return ⟨found.value, found.left, Nat.le_succ_of_le found.notMore⟩
      | none => none
  | .scalar _ tag _ style content =>
    match scalarValue tag style content with
    | .ok (.wideInteger _) => none
    | .ok value => some ⟨Value.under tag (.scalar value), hops, Nat.le_refl _⟩
    | .error _ => none
  | .sequence _ tag _ items =>
    match depth with
    | 0 => none
    | depth + 1 => do
      let made ← valuesOf document depth hops items
      return ⟨Value.under tag (.sequence made.value), made.left, made.notMore⟩
  | .mapping _ tag _ entries =>
    match depth with
    | 0 => none
    | depth + 1 => do
      let made ← entriesOf document depth hops entries
      if Value.distinct made.value then
        return ⟨Value.under tag (.mapping made.value), made.left, made.notMore⟩
      else none
termination_by (hops, sizeOf node)

def valuesOf (document : Document) (depth hops : Nat) (items : List Node) :
    Option (Followed (List Value) hops) :=
  match items with
  | [] => some ⟨[], hops, Nat.le_refl _⟩
  | item :: others => do
    let ⟨value, left, notMore⟩ ← valueOf document depth hops item
    let others ← valuesOf document depth left others
    return ⟨value :: others.value, others.left, Nat.le_trans others.notMore notMore⟩
termination_by (hops, sizeOf items)
decreasing_by
  · apply Prod.Lex.right
    simp only [List.cons.sizeOf_spec]
    omega
  · apply Prod.Lex.right' _ notMore
    simp only [List.cons.sizeOf_spec]
    omega

def entriesOf (document : Document) (depth hops : Nat) (entries : List (Node × Node)) :
    Option (Followed (List (Value × Value)) hops) :=
  match entries with
  | [] => some ⟨[], hops, Nat.le_refl _⟩
  | (key, content) :: others => do
    let ⟨key, left, notMore⟩ ← valueOf document depth hops key
    let ⟨value, left, notMore⟩ ← valueOf document depth left content
    let others ← entriesOf document depth left others
    return ⟨(key, value) :: others.value, others.left, by have := others.notMore; omega⟩
termination_by (hops, sizeOf entries)
decreasing_by
  · apply Prod.Lex.right
    simp only [List.cons.sizeOf_spec, Prod.mk.sizeOf_spec]
    omega
  · apply Prod.Lex.right' _ notMore
    simp only [List.cons.sizeOf_spec, Prod.mk.sizeOf_spec]
    omega
  · apply Prod.Lex.right' _ (by omega)
    simp only [List.cons.sizeOf_spec]
    omega

end

namespace Node

mutual

/-- How many events describe a node: one for a scalar or an alias, and two around the events of a
collection's content. -/
def events : Node → Nat
  | scalar .. | aliasTo .. => 1
  | sequence _ _ _ items => 2 + eventsOfItems items
  | mapping _ _ _ entries => 2 + eventsOfEntries entries

def eventsOfItems : List Node → Nat
  | [] => 0
  | item :: others => item.events + eventsOfItems others

def eventsOfEntries : List (Node × Node) → Nat
  | [] => 0
  | (key, value) :: others => key.events + value.events + eventsOfEntries others

end

end Node

/-- How many aliases may be followed for each event of a document. -/
def hopsPerEvent : Nat :=
  100

/-- Whether a document stands for a value: scalars are what their tags say, keys are not repeated,
and neither collections nor aliases lead too far. A text without a document does. -/
def Document.isSound (document : Document) : Bool :=
  match document.root with
  | none => true
  | some root => (valueOf document nestingLimit (hopsPerEvent * root.events) root).isSome

end SchemaInterfaces.Yaml
