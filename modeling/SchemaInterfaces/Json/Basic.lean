/-!
# JSON values

Documents as they are written: objects keep the order of their entries and entries of one key. A
string literal may hold escapes that denote no text (half of a surrogate pair); such a literal is
a value all the same, but one without content. Numbers are kept as they are written.
-/

namespace SchemaInterfaces

/-- A JSON value. -/
inductive Json where
  | null
  | bool (b : Bool)
  | number (literal : String)
  /-- A string literal; without content if its escapes denote no text. -/
  | string (content : Option String)
  | array (items : List Json)
  | object (entries : List (Option String × Json))

namespace Json

/-- The string literal of a text. -/
def ofText (s : String) : Json :=
  string (some s)

/-- The text of a string literal. -/
def text? : Json → Option String
  | string content => content
  | _ => none

/-- The truth value that a literal stands for. -/
def bool? : Json → Option Bool
  | bool b => some b
  | _ => none

/-- How deeply arrays and objects may nest where their contents are made use of. -/
def nestingLimit : Nat :=
  127

/-- The entries of an object under known keys, in order, where entries under other keys do not
matter; nothing if some key is no text. -/
def knownEntries? (known : List String) : List (Option String × Json) →
    Option (List (String × Json))
  | [] => some []
  | (none, _) :: _ => none
  | (some key, value) :: others =>
    (knownEntries? known others).map fun rest =>
      if known.contains key then (key, value) :: rest else rest

/-- Whether no key occurs twice. -/
def distinctKeys : List (String × Json) → Bool
  | [] => true
  | (key, _) :: others => others.all (fun entry => entry.1 != key) && distinctKeys others

/-- The values that an object gives for known keys, in the order of the keys; nothing if a known
key occurs twice or some key is no text. An array gives its items to the keys in order, and must
not have more of them. -/
def properties? (known : List String) : Json → Option (List (Option Json))
  | object entries => do
    let found ← knownEntries? known entries
    if distinctKeys found then
      return known.map fun key => (found.find? fun entry => entry.1 == key).map (·.2)
    else
      none
  | array items =>
    if items.length ≤ known.length then
      some ((items.map some) ++ List.replicate (known.length - items.length) none)
    else
      none
  | _ => none

end Json

end SchemaInterfaces
